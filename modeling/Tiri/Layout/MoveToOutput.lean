import Tiri.Layout.FocusLayer
import Tiri.Layout.OtherWorkspaces

set_option linter.dupNamespace false

/-!
# Windows and columns move to an output

`move_to_output` and `move_column_to_output` take the target workspace by its index, and go by its
id: new empty workspaces may shift the indices meanwhile.

Results:
* `settle_spec`, `cleanUpIfIdle_spec`: what becomes of the monitors;
* `moves_honoured`: which moves reach their target and leave the focus alone;
* `moveColumnToOutput_ignores`: a column move with a floating window in focus forgets its target.
-/

namespace Tiri.Layout

open Option List Nat Ensures Workspace Monitor
open YieldsFrom hiding of_pure

variable {Id : Type}

namespace Monitor

/-! ## The ends of a monitor -/

variable {mon : Monitor Id} {nextId : WorkspaceId}

/-- **Tidy monitors**: their ends are as they should be, whatever is in between. -/
structure Tidy (mon : Monitor Id) (nextId : WorkspaceId) : Prop where
  active : mon.activeWorkspaceIdx < mon.workspaces.length
  last : ∀ ws ∈ mon.workspaces.getLast?, ws.hasWindowsOrName = false
  first : mon.emptyAboveFirst = true → ∀ ws ∈ mon.workspaces.head?, ws.hasWindowsOrName = false
  ids : (mon.workspaces.map (·.id)).Nodup
  fresh : ∀ ws ∈ mon.workspaces, ws.id < nextId

/-- There is more than the empty workspace above the first. -/
def Roomy (mon : Monitor Id) : Prop := mon.emptyAboveFirst = true → 2 ≤ mon.workspaces.length

theorem WellFormed.tidy (h : mon.WellFormed nextId) : mon.Tidy nextId :=
  ⟨h.active, h.last, h.first, h.ids, h.fresh⟩

variable {idx : ℕ} {ws ws' : Workspace Id} {windows : List Id} {l : List (Workspace Id)}

/-- The ids stay where they are. -/
theorem map_set_id (hget : l[idx]? = some ws) (hid : ws'.id = ws.id) :
    (l.set idx ws').map (·.id) = l.map (·.id) := by
  obtain ⟨front, rest, rfl, rfl⟩ := Vec.getElem?_eq_some_split.mp hget
  simp [hid]

/-- The same workspace is active. -/
theorem activeWorkspace_set (hget : mon.workspaces[idx]? = some ws) (hid : ws'.id = ws.id) :
    (activeWorkspace { mon with workspaces := mon.workspaces.set idx ws' }).map (·.id) =
      mon.activeWorkspace.map (·.id) := by
  unfold activeWorkspace
  rw [← List.getElem?_map, ← List.getElem?_map, map_set_id hget hid]

/-- A workspace that has lost windows was used before. -/
theorem used_of_removed (h : ws.Removed windows ws') (hne : windows ≠ []) :
    ws.hasWindowsOrName = true := by
  obtain ⟨window, hin⟩ := exists_mem_of_ne_nil windows hne
  have hmem : window ∈ ws.ids := h.ids.mem_iff.mpr (mem_append_left _ hin)
  have hwindows : ws.hasWindows = true := by
    rw [hasWindows_eq]
    simpa using ne_nil_of_mem hmem
  rw [Workspace.hasWindowsOrName, hwindows, Bool.true_or]

theorem not_mem_of_unused (h : ws.hasWindowsOrName = false) {window : Id} : window ∉ ws.ids := by
  intro hmem
  rw [Workspace.hasWindowsOrName, Bool.or_eq_false_iff, hasWindows_eq] at h
  exact ne_nil_of_mem hmem (by simpa using h.1)

/-- Losing windows leaves a monitor tidy: the workspace was not at an end. -/
theorem WellFormed.taken (h : mon.WellFormed nextId) (hget : mon.workspaces[idx]? = some ws)
    (hremoved : ws.Removed windows ws') (hne : windows ≠ []) :
    ({ mon with workspaces := mon.workspaces.set idx ws' } : Monitor Id).Tidy nextId ∧
      ({ mon with workspaces := mon.workspaces.set idx ws' } : Monitor Id).Roomy := by
  have hused := used_of_removed hremoved hne
  obtain ⟨hlt, -⟩ := List.getElem?_eq_some_iff.mp hget
  have hlast : idx + 1 ≠ mon.workspaces.length := by
    intro heq
    have hunused := h.last ws (by
      rw [List.getLast?_eq_getElem?, ← heq, Nat.add_sub_cancel]
      exact hget)
    rw [hused] at hunused
    cases hunused
  have hfirst : mon.emptyAboveFirst = true → idx ≠ 0 := by
    rintro habove rfl
    have hunused := h.first habove ws (by
      rw [List.head?_eq_getElem?]
      exact hget)
    rw [hused] at hunused
    cases hunused
  refine ⟨⟨by simpa using h.active, fun w hw => ?_, fun habove w hw => ?_, ?_, fun w hw => ?_⟩,
    fun habove => ?_⟩
  · rw [List.getLast?_eq_getElem?, length_set, List.getElem?_set_ne (by omega),
      ← List.getLast?_eq_getElem?] at hw
    exact h.last w hw
  · rw [List.head?_eq_getElem?, List.getElem?_set_ne (hfirst habove), ← List.head?_eq_getElem?] at hw
    exact h.first habove w hw
  · rw [map_set_id hget hremoved.id]
    exact h.ids
  · rcases mem_or_eq_of_mem_set hw with hw | rfl
    · exact h.fresh w hw
    · exact hremoved.id ▸ h.fresh ws (mem_of_getElem? hget)
  · rw [length_set]
    omega

variable (geometry : Output → OutputGeometry)

/-- **The end of filling a workspace**: new empty workspaces come where the ends are used now. -/
theorem settle_spec (activate : Bool) (hactive : mon.activeWorkspaceIdx < mon.workspaces.length)
    (hidx : idx < mon.workspaces.length) (hlast : idx + 1 ≠ mon.workspaces.length →
      ∀ ws ∈ mon.workspaces.getLast?, ws.hasWindowsOrName = false)
    (hfirst : mon.emptyAboveFirst = true → idx ≠ 0 →
      ∀ ws ∈ mon.workspaces.head?, ws.hasWindowsOrName = false)
    (hids : (mon.workspaces.map (·.id)).Nodup) (hfresh : ∀ ws ∈ mon.workspaces, ws.id < nextId) :
    ∃ mon' nextId' top bottom,
      ((mon.settle idx activate).run geometry).run nextId = some (mon', nextId') ∧
      mon'.Tidy nextId' ∧ mon'.Roomy ∧ mon'.output = mon.output ∧
      mon'.workspaces = top ++ mon.workspaces ++ bottom ∧
      (∀ ws ∈ top ++ bottom, ws.hasWindowsOrName = false) ∧
      (activate = false → mon'.activeWorkspace = mon.activeWorkspace) := by
  obtain ⟨mon₁, bottom, n₁, hrun₁, hbottom, hws₁, hactive₁, hoptions₁, houtput₁⟩ :=
    bottomIf_spec mon geometry nextId hactive (idx + 1 = mon.workspaces.length)
  obtain ⟨mon₂, top, n₂, hrun₂, htop, hws₂, hactive₂, hoptions₂, houtput₂⟩ :=
    topIf_spec mon₁ geometry n₁ (idx = 0)
  have habove : mon₁.emptyAboveFirst = mon.emptyAboveFirst := by
    unfold emptyAboveFirst
    rw [hoptions₁]
  have hws : mon₂.workspaces = top ++ mon.workspaces ++ bottom := by
    rw [hws₂, hws₁, append_assoc]
  have hlen : mon₂.workspaces.length = top.length + mon.workspaces.length + bottom.length := by
    rw [hws, length_append, length_append]
  obtain ⟨mon', hmon', hws', hidx', hoptions', houtput'⟩ : ∃ mon',
      mon₂.activateWorkspaceIf activate (mon₁.shiftedIdx (idx = 0) idx) = some mon' ∧
      mon'.workspaces = mon₂.workspaces ∧ (mon'.activeWorkspaceIdx < mon₂.workspaces.length ∧
        (activate = false → mon'.activeWorkspaceIdx = mon₂.activeWorkspaceIdx)) ∧
      mon'.options = mon₂.options ∧ mon'.output = mon₂.output := by
    have hactive' : mon₂.activeWorkspaceIdx < mon₂.workspaces.length := by
      omega
    cases activate with
    | false => exact ⟨mon₂, rfl, rfl, ⟨hactive', fun _ => rfl⟩, rfl, rfl⟩
    | true =>
      obtain ⟨mon', hrun, hws', hidx', hoptions', houtput'⟩ :=
        activateWorkspace_spec hactive' (mon₁.shiftedIdx (idx = 0) idx)
      refine ⟨mon', hrun, hws', ⟨?_, fun h => by cases h⟩, hoptions', houtput'⟩
      rw [hidx', htop.shiftedIdx_eq, hlen]
      omega
  have hworkspaces : mon'.workspaces = top ++ mon.workspaces ++ bottom := hws'.trans hws
  have habove' : mon'.emptyAboveFirst = mon.emptyAboveFirst := by
    unfold emptyAboveFirst
    rw [hoptions', hoptions₂, hoptions₁]
  have hbottomLen := hbottom.length
  have htopLen := htop.length
  simp only [habove, decide_eq_true_iff] at hbottomLen htopLen
  refine ⟨mon', n₂, top, bottom, ?_, ?_, fun hab => ?_, houtput'.trans (houtput₂.trans houtput₁),
    hworkspaces, ?_, ?_⟩
  · exact (run_bind hrun₁).trans ((run_bind hrun₂).trans (run_lift hmon'))
  · have hne : mon.workspaces ≠ [] := length_pos_iff.mp (by omega)
    refine ⟨by rw [hws']; exact hidx'.1, fun ws hin => ?_, fun hab ws hin => ?_, ?_,
      fun ws hin => ?_⟩
    · by_cases hend : idx + 1 = mon.workspaces.length
      · rw [if_pos hend] at hbottomLen
        rw [hworkspaces, List.getLast?_append_of_ne_nil _ (length_pos_iff.mp (by omega))] at hin
        exact hbottom.unused ws (mem_of_getLast? hin)
      · rw [if_neg hend, length_eq_zero_iff] at hbottomLen
        rw [hworkspaces, hbottomLen, append_nil, List.getLast?_append_of_ne_nil _ hne] at hin
        exact hlast hend ws hin
    · rw [habove'] at hab
      by_cases hend : idx = 0
      · rw [if_pos ⟨hab, hend⟩] at htopLen
        rw [hworkspaces, append_assoc,
          List.head?_append_of_ne_nil _ (length_pos_iff.mp (by omega))] at hin
        exact htop.unused ws (mem_of_head? hin)
      · rw [if_neg fun h => hend h.2, length_eq_zero_iff] at htopLen
        rw [hworkspaces, htopLen, nil_append, List.head?_append_of_ne_nil _ hne] at hin
        exact hfirst hab hend ws hin
    · rw [hworkspaces]
      exact nodup_spares hbottom htop hids hfresh
    · rw [hworkspaces] at hin
      rcases mem_append.mp hin with hin | hin
      · rcases mem_append.mp hin with hin | hin
        · exact (htop.fresh ws hin).2
        · exact (hfresh ws hin).trans_le (hbottom.le.trans htop.le)
      · exact (hbottom.fresh ws hin).2.trans_le htop.le
  · rw [habove'] at hab
    rw [hworkspaces, ← hws, hlen]
    by_cases hend : idx = 0
    · rw [if_pos ⟨hab, hend⟩] at htopLen
      omega
    · omega
  · intro ws hin
    exact (mem_append.mp hin).elim (htop.unused ws) (hbottom.unused ws)
  · intro hoff
    unfold activeWorkspace
    rw [hworkspaces, hidx'.2 hoff, hactive₂, hactive₁, append_assoc,
      List.getElem?_append_right (by omega), Nat.add_sub_cancel, List.getElem?_append_left hactive]

/-- **Cleaning up when there is no switch**: what is used stays, and so does the active workspace,
    unless it is one too many. -/
theorem cleanUpIfIdle_spec (h : mon.Tidy nextId) (hroomy : mon.Roomy) :
    ∃ mon', mon.cleanUpIfIdle = some mon' ∧ mon.Trimmed mon' ∧
      (∀ ws ∈ mon.workspaces, ws.hasWindowsOrName = true → ws ∈ mon'.workspaces) ∧
      (mon'.activeWorkspace.map (·.id) = mon.activeWorkspace.map (·.id) ↔
        ¬ (mon.workspaceSwitch = none ∧ mon.MergesActive)) := by
  unfold cleanUpIfIdle
  cases hswitch : mon.workspaceSwitch with
  | some switch =>
    exact ⟨mon, by simp, .refl mon, fun ws hws _ => hws, by simp⟩
  | none =>
    have hlt := h.active
    have hact : mon.activeWorkspace = some mon.workspaces[mon.activeWorkspaceIdx] :=
      List.getElem?_eq_getElem h.active
    obtain ⟨mon', hrun, hcut, -, hfocus⟩ :=
      stopSwitchAndCleanUp_spec hroomy h.first h.last h.ids hact
    have hsame : ({ mon with workspaceSwitch := none } : Monitor Id) = mon := by
      cases mon
      cases hswitch
      rfl
    refine ⟨mon', ?_, hcut, hcut.workspaces.used, ?_⟩
    · unfold stopSwitchAndCleanUp at hrun
      rwa [hsame] at hrun
    · rw [hact, map_some, hfocus]
      simp

/-! ## What is put down -/

/-- Windows have come to the workspace with this id, and are nowhere else on the monitor. -/
structure Received (mon : Monitor Id) (id : WorkspaceId) (windows : List Id) (mon' : Monitor Id) :
    Prop where
  output : mon'.output = mon.output
  target : ∃ ws ∈ mon'.workspaces, ws.id = id ∧ ∀ w ∈ windows, w ∈ ws.ids
  only : ∀ ws ∈ mon'.workspaces, ∀ w ∈ ws.ids,
    (ws.id = id ∧ w ∈ windows) ∨ ∃ ws₀ ∈ mon.workspaces, ws₀.id = ws.id ∧ w ∈ ws₀.ids

/-- Filling a workspace, and what follows. -/
theorem fillWorkspace_settle (h : mon.Tidy nextId) (hget : mon.workspaces[idx]? = some ws)
    (activate : Bool) {f : Workspace Id → Option (Workspace Id)}
    (hf : Ensures (f ws) (ws.Added windows)) :
    YieldsFrom geometry nextId
      (do
        let self ← (mon.fillWorkspace idx f : LayoutM _)
        self.settle idx activate)
      fun mon' nextId' => mon'.Tidy nextId' ∧ mon'.Roomy ∧ mon.Received ws.id windows mon' ∧
        (activate = false →
          mon'.activeWorkspace.map (·.id) = mon.activeWorkspace.map (·.id)) := by
  obtain ⟨hlt, -⟩ := List.getElem?_eq_some_iff.mp hget
  have hfilled : Ensures (mon.fillWorkspace idx f) fun mon₁ => ∃ ws', ws.Added windows ws' ∧
      mon₁ = { mon with workspaces := mon.workspaces.set idx (mon.own ws') } := by
    refine Ensures.self.bind fun l hl => of_pure ?_
    obtain ⟨x, hx, hl⟩ := bind_eq_some_iff.mp hl
    obtain ⟨y, hy, rfl⟩ := map_eq_some_iff.mp hl
    obtain ⟨ws', hws', rfl⟩ := map_eq_some_iff.mp hy
    cases some.inj (hget.symm.trans hx)
    exact ⟨ws', hf ws' hws', rfl⟩
  refine lift_bind hfilled fun mon₁ hmon₁ => ?_
  obtain ⟨ws', hadded, rfl⟩ := hmon₁
  have hid : (mon.own ws').id = ws.id := by
    unfold own
    split_ifs <;> exact hadded.id
  have hids : (mon.own ws').ids = ws'.ids := by
    unfold own
    split_ifs <;> rfl
  have hmap := map_set_id hget hid
  set filled : Monitor Id := { mon with workspaces := mon.workspaces.set idx (mon.own ws') }
    with hfilledDef
  have hlen : filled.workspaces.length = mon.workspaces.length := length_set
  have hlast : idx + 1 ≠ filled.workspaces.length →
      ∀ w ∈ filled.workspaces.getLast?, w.hasWindowsOrName = false := by
    intro hne w hw
    rw [List.getLast?_eq_getElem?, hlen, hfilledDef, List.getElem?_set_ne (by omega),
      ← List.getLast?_eq_getElem?] at hw
    exact h.last w hw
  have hfirst : filled.emptyAboveFirst = true → idx ≠ 0 →
      ∀ w ∈ filled.workspaces.head?, w.hasWindowsOrName = false := by
    intro habove hne w hw
    rw [List.head?_eq_getElem?, hfilledDef, List.getElem?_set_ne hne, ← List.head?_eq_getElem?] at hw
    exact h.first habove w hw
  have hfresh : ∀ w ∈ filled.workspaces, w.id < nextId := by
    intro w hw
    rcases mem_or_eq_of_mem_set hw with hw | rfl
    · exact h.fresh w hw
    · exact hid ▸ h.fresh ws (mem_of_getElem? hget)
  obtain ⟨mon', nextId', top, bottom, hrun, htidy, hroomy, houtput, hworkspaces, hunused, hfocus⟩ :=
    settle_spec geometry activate (hlen ▸ h.active) (hlen ▸ hlt) hlast hfirst
      (by rw [hfilledDef, hmap]; exact h.ids) hfresh
  rintro p hp
  cases some.inj (hp.symm.trans hrun)
  refine ⟨htidy, hroomy, ⟨houtput, ⟨mon.own ws', ?_, hid, fun w hw => ?_⟩, fun v hv w hw => ?_⟩, fun hoff => ?_⟩
  · rw [hworkspaces]
    exact mem_append_left _ (mem_append_right _ (mem_set hlt _))
  · rw [hids]
    exact hadded.ids.mem_iff.mpr (mem_append_left _ hw)
  · have hin : v ∈ filled.workspaces := by
      rw [hworkspaces, append_assoc, mem_append, mem_append] at hv
      have hnot : v ∉ top ++ bottom := fun hv => not_mem_of_unused (hunused v hv) hw
      rw [mem_append, not_or] at hnot
      exact (hv.resolve_left hnot.1).resolve_right hnot.2
    rcases mem_or_eq_of_mem_set hin with hin | rfl
    · exact .inr ⟨v, hin, rfl, hw⟩
    · rw [hids] at hw
      rcases mem_append.mp (hadded.ids.mem_iff.mp hw) with hw | hw
      · exact .inl ⟨hid, hw⟩
      · exact .inr ⟨ws, mem_of_getElem? hget, hid.symm, hw⟩
  · rw [hfocus hoff]
    exact activeWorkspace_set hget hid

theorem findIdx_id (hids : (l.map (·.id)).Nodup) (hget : l[idx]? = some ws) :
    l.findIdx? (·.id = ws.id) = some idx := by
  obtain ⟨i, hi⟩ := isSome_iff_exists.mp (List.findIdx?_isSome (p := fun v => v.id = ws.id)
    |>.trans (any_eq_true.mpr ⟨ws, mem_of_getElem? hget, by simp⟩))
  obtain ⟨hlt, hid, -⟩ := List.findIdx?_eq_some_iff_getElem.mp hi
  rw [hi]
  exact congrArg some (id_inj hids (List.getElem?_eq_getElem hlt) hget (by simpa using hid))

end Monitor

namespace Layout

/-! ## Where windows are -/

/-- **Sound layouts**: well-formed, with windows and outputs that are not there twice. -/
structure Sound (layout : Layout Id) (nextId : WorkspaceId) : Prop
    extends layout.WellFormed nextId where
  spaces : ∀ ws ∈ layout.workspaces, ws.Inv
  windows : (layout.workspaces.flatMap Workspace.ids).Nodup
  outputs : (layout.monitorSet.monitors.map (·.output)).Nodup

variable (self : Layout Id)

/-- The window is on the workspace with this id, on this output. -/
def On (output : Output) (id : WorkspaceId) (window : Id) : Prop :=
  ∃ mon ∈ self.monitorSet.monitors, mon.output = output ∧
    ∃ ws ∈ mon.workspaces, ws.id = id ∧ window ∈ ws.ids

/-- The window is there, and nowhere else. -/
structure PlacedOn (layout : Layout Id) (output : Output) (id : WorkspaceId) (window : Id) :
    Prop where
  there : layout.On output id window
  only : ∀ output' id', layout.On output' id' window → output' = output ∧ id' = id

/-- The index of the active monitor. -/
def activeMonitorIdx : Option ℕ :=
  match self.monitorSet with
  | .normal _ _ activeMonitorIdx => some activeMonitorIdx
  | .noOutputs _ => none

/-- The active workspace of each monitor. -/
def activeIds : List (Option WorkspaceId) :=
  self.monitorSet.monitors.map fun mon => mon.activeWorkspace.map (·.id)

/-- The same monitor is active, and the same workspace on each monitor. -/
structure SameFocus (old layout : Layout Id) : Prop where
  monitor : layout.activeMonitorIdx = old.activeMonitorIdx
  workspaces : layout.activeIds = old.activeIds

/-- Without the window, the monitor has nothing in use, and its last workspace is active, below an
    empty one above the first: clean-up makes one of the two. -/
def MergesAfter (mon : Monitor Id) (window : Id) : Prop :=
  mon.workspaceSwitch = none ∧ mon.emptyAboveFirst = true ∧
    mon.activeWorkspaceIdx + 1 = mon.workspaces.length ∧
    ∀ ws ∈ mon.workspaces, ws.name = none ∧ ∀ w ∈ ws.ids, w = window

variable {self : Layout Id} {nextId : WorkspaceId} {monitors : List (Monitor Id)}
  {primaryIdx activeIdx : ℕ}

theorem SameFocus.refl (self : Layout Id) : self.SameFocus self := ⟨rfl, rfl⟩

section Places

variable {k k' i i' : ℕ} {mon mon' : Monitor Id} {ws ws' : Workspace Id} {window : Id}

section

variable (hs : self.Sound nextId) (hset : self.monitorSet = .normal monitors primaryIdx activeIdx)
  (hk : monitors[k]? = some mon)
include hs hset hk

/-- An output has one monitor. -/
theorem Sound.output_inj (hk' : monitors[k']? = some mon') (houtput : mon.output = mon'.output) :
    k = k' := by
  have hnodup := hs.outputs
  rw [hset] at hnodup
  change (monitors.map (·.output)).Nodup at hnodup
  obtain ⟨hlt, -⟩ := List.getElem?_eq_some_iff.mp hk
  refine (List.getElem?_inj (by simpa using hlt) hnodup).mp ?_
  rw [List.getElem?_map, List.getElem?_map, hk, hk']
  exact congrArg some houtput

theorem Sound.findIdx_output :
    Ensures (monitors.findIdx? (·.output = mon.output)) fun j => j = k := by
  intro j hj
  obtain ⟨hlt, houtput, -⟩ := List.findIdx?_eq_some_iff_getElem.mp hj
  exact hs.output_inj hset (List.getElem?_eq_getElem hlt) hk (by simpa using houtput)

/-- A window is in one place only. -/
theorem Sound.place_unique (hi : mon.workspaces[i]? = some ws) (hw : window ∈ ws.ids)
    (hk' : monitors[k']? = some mon') (hi' : mon'.workspaces[i']? = some ws')
    (hw' : window ∈ ws'.ids) : k = k' ∧ i = i' := by
  have hnodup := hs.windows
  rw [workspaces, hset] at hnodup
  change (List.flatMap Workspace.ids (monitors.flatMap Monitor.workspaces)).Nodup at hnodup
  rw [flatMap_assoc, nodup_flatMap] at hnodup
  obtain ⟨hinner, houter⟩ := hnodup
  obtain ⟨hlt, rfl⟩ := List.getElem?_eq_some_iff.mp hk
  obtain ⟨hlt', rfl⟩ := List.getElem?_eq_some_iff.mp hk'
  obtain ⟨hlti, rfl⟩ := List.getElem?_eq_some_iff.mp hi
  obtain ⟨hlti', rfl⟩ := List.getElem?_eq_some_iff.mp hi'
  have hin : ∀ {m : Monitor Id} {j : ℕ} (hj : j < m.workspaces.length),
      window ∈ m.workspaces[j].ids → window ∈ m.workspaces.flatMap Workspace.ids :=
    fun hj hmem => mem_flatMap.mpr ⟨_, getElem_mem hj, hmem⟩
  rw [pairwise_iff_getElem] at houter
  obtain rfl : k = k' := by
    by_contra hne
    rcases lt_or_gt_of_ne hne with hlt'' | hlt''
    · exact houter _ _ hlt hlt' hlt'' (hin hlti hw) (hin hlti' hw')
    · exact houter _ _ hlt' hlt hlt'' (hin hlti' hw') (hin hlti hw)
  refine ⟨rfl, ?_⟩
  obtain ⟨-, hpairs⟩ := nodup_flatMap.mp (hinner _ (getElem_mem hlt))
  rw [pairwise_iff_getElem] at hpairs
  by_contra hne
  rcases lt_or_gt_of_ne hne with hlt'' | hlt''
  · exact hpairs _ _ hlti hlti' hlt'' hw hw'
  · exact hpairs _ _ hlti' hlti hlt'' hw' hw

end

variable {windows : List Id}

/-- Once it has left its workspace, it is nowhere on the monitor. -/
theorem Sound.gone (hs : self.Sound nextId)
    (hset : self.monitorSet = .normal monitors primaryIdx activeIdx) (hk : monitors[k]? = some mon)
    (hi : mon.workspaces[i]? = some ws) (hremoved : ws.Removed windows ws')
    (hwindow : window ∈ windows) : ∀ v ∈ mon.workspaces.set i ws', window ∉ v.ids := by
  have hmem : window ∈ ws.ids := hremoved.ids.mem_iff.mpr (mem_append_left _ hwindow)
  intro v hv hw
  obtain ⟨j, hj⟩ := mem_iff_getElem?.mp hv
  by_cases hji : i = j
  · subst hji
    obtain ⟨hlt, -⟩ := List.getElem?_eq_some_iff.mp hi
    rw [List.getElem?_set_self hlt] at hj
    cases hj
    have hnodup : (windows ++ ws'.ids).Nodup :=
      hremoved.ids.nodup_iff.mp (hs.spaces ws (by
        rw [workspaces, hset]
        exact mem_flatMap.mpr ⟨mon, mem_of_getElem? hk, mem_of_getElem? hi⟩)).nodup
    exact disjoint_of_nodup_append hnodup hwindow hw
  · rw [List.getElem?_set_ne hji] at hj
    exact hji (hs.place_unique hset hk hi hmem hk hj hw).2

/-- It is on no other monitor. -/
theorem Sound.elsewhere (hs : self.Sound nextId)
    (hset : self.monitorSet = .normal monitors primaryIdx activeIdx)
    (hk : monitors[k]? = some mon) (hi : mon.workspaces[i]? = some ws) (hmem : window ∈ ws.ids)
    (hk' : monitors[k']? = some mon') (hne : k ≠ k') : ∀ v ∈ mon'.workspaces, window ∉ v.ids := by
  intro v hv hw
  obtain ⟨j, hj⟩ := mem_iff_getElem?.mp hv
  exact hne (hs.place_unique hset hk hi hmem hk' hj hw).1

/-- **The clean-up of the source** loses its active workspace when the monitor is left so. -/
theorem Sound.merges_iff (hs : self.Sound nextId)
    (hset : self.monitorSet = .normal monitors primaryIdx activeIdx)
    (hk : monitors[k]? = some mon) (hi : mon.workspaces[i]? = some ws)
    (hremoved : ws.Removed [window] ws') :
    (mon.workspaceSwitch = none ∧ Monitor.MergesActive
      { mon with workspaces := mon.workspaces.set i ws' }) ↔ MergesAfter mon window := by
  have hmem : window ∈ ws.ids := hremoved.ids.mem_iff.mpr (by simp)
  obtain ⟨hlt, -⟩ := List.getElem?_eq_some_iff.mp hi
  have hunused : ∀ v : Workspace Id, v.hasWindowsOrName = false ↔ v.name = none ∧ v.ids = [] := by
    intro v
    rw [Workspace.hasWindowsOrName, Bool.or_eq_false_iff, hasWindows_eq, and_comm]
    simp
  unfold Monitor.MergesActive MergesAfter
  rw [length_set]
  refine and_congr_right fun _ => and_congr_right fun _ => and_congr_right fun _ => ?_
  have hpoint : ∀ (j : ℕ) (v u : Workspace Id), mon.workspaces[j]? = some v →
      (mon.workspaces.set i ws')[j]? = some u →
      (u.hasWindowsOrName = false ↔ v.name = none ∧ ∀ w ∈ v.ids, w = window) := by
    intro j v u hj hu
    by_cases hij : i = j
    · subst hij
      cases some.inj (hi.symm.trans hj)
      rw [List.getElem?_set_self hlt] at hu
      cases hu
      rw [hunused, hremoved.name]
      refine and_congr_right fun _ => ⟨fun hnil w hw => ?_, fun hall => ?_⟩
      · simpa [hnil] using hremoved.ids.mem_iff.mp hw
      · refine eq_nil_iff_forall_not_mem.mpr fun w hw => ?_
        obtain rfl := hall w (hremoved.ids.mem_iff.mpr (mem_cons_of_mem _ hw))
        exact hs.gone hset hk hi hremoved (by simp) ws' (mem_set hlt _) hw
    · rw [List.getElem?_set_ne hij, hj] at hu
      cases hu
      rw [hunused]
      refine and_congr_right fun _ => ⟨fun hnil w hw => ?_, fun hall => ?_⟩
      · rw [hnil] at hw
        exact absurd hw not_mem_nil
      · refine eq_nil_iff_forall_not_mem.mpr fun w hw => hij ?_
        obtain rfl := hall w hw
        exact (hs.place_unique hset hk hi hmem hk hj hw).2
  constructor
  · intro hall v hv
    obtain ⟨j, hj⟩ := mem_iff_getElem?.mp hv
    obtain ⟨hltj, -⟩ := List.getElem?_eq_some_iff.mp hj
    have hget := List.getElem?_eq_getElem (l := mon.workspaces.set i ws') (i := j)
      (by simpa using hltj)
    exact (hpoint j v _ hj hget).mp (hall _ (mem_of_getElem? hget))
  · intro hall u hu
    obtain ⟨j, hj⟩ := mem_iff_getElem?.mp hu
    obtain ⟨hltj, -⟩ := List.getElem?_eq_some_iff.mp hj
    rw [length_set] at hltj
    have hget := List.getElem?_eq_getElem hltj
    exact (hpoint j _ u hget hj).mpr (hall _ (getElem_mem hltj))

/-! ## What a move leaves -/

variable {self' : Layout Id} {n primaryIdx' activeIdx' : ℕ} {mon₂ new new' : Monitor Id}
  {id : WorkspaceId}

/-- One monitor changes: the active workspaces stay, if that of this monitor does. -/
theorem map_set_eq_iff {l : List (Monitor Id)} {f : Monitor Id → Option WorkspaceId}
    (hk : l[k]? = some mon) : (l.set k mon').map f = l.map f ↔ f mon' = f mon := by
  obtain ⟨front, rest, rfl, rfl⟩ := Vec.getElem?_eq_some_split.mp hk
  simp

section

variable (hs : self.Sound nextId) (hset : self.monitorSet = .normal monitors primaryIdx activeIdx)
  (hk : monitors[k]? = some mon) (hi : mon.workspaces[i]? = some ws)
include hs hset hk hi

/-- **Windows go to another monitor.** -/
theorem Sound.placed_elsewhere (hremoved : ws.Removed windows ws') (hn : monitors[n]? = some new)
    (hne : k ≠ n) (hreceived : new.Received id windows new')
    (hsub : ∀ v ∈ mon₂.workspaces, v ∈ mon.workspaces.set i ws')
    (hset' : self'.monitorSet = .normal ((monitors.set n new').set k mon₂) primaryIdx' activeIdx') :
    ∀ w ∈ windows, self'.PlacedOn new.output id w := by
  intro w hw
  have hmem : w ∈ ws.ids := hremoved.ids.mem_iff.mpr (mem_append_left _ hw)
  obtain ⟨hltk, -⟩ := List.getElem?_eq_some_iff.mp hk
  obtain ⟨hltn, -⟩ := List.getElem?_eq_some_iff.mp hn
  have hgetn : ((monitors.set n new').set k mon₂)[n]? = some new' := by
    rw [List.getElem?_set_ne hne, List.getElem?_set_self hltn]
  have hmonitors : self'.monitorSet.monitors = (monitors.set n new').set k mon₂ := by
    rw [hset']
    rfl
  refine ⟨?_, ?_⟩
  · obtain ⟨v, hv, hid, hin⟩ := hreceived.target
    refine ⟨new', ?_, hreceived.output, v, hv, hid, hin w hw⟩
    rw [hmonitors]
    exact mem_of_getElem? hgetn
  · rintro output' id' ⟨m, hm, hout, v, hv, hid, hwv⟩
    rw [hmonitors] at hm
    obtain ⟨j, hj⟩ := mem_iff_getElem?.mp hm
    by_cases hjk : k = j
    · subst hjk
      rw [List.getElem?_set_self (by simpa using hltk)] at hj
      cases hj
      exact absurd hwv (hs.gone hset hk hi hremoved hw v (hsub v hv))
    · rw [List.getElem?_set_ne hjk] at hj
      by_cases hjn : n = j
      · subst hjn
        rw [List.getElem?_set_self hltn] at hj
        cases hj
        rcases hreceived.only v hv w hwv with ⟨hid', -⟩ | ⟨v₀, hv₀, -, hw₀⟩
        · exact ⟨hout.symm.trans hreceived.output, hid.symm.trans hid'⟩
        · exact absurd hw₀ (hs.elsewhere hset hk hi hmem hn hne v₀ hv₀)
      · rw [List.getElem?_set_ne hjn] at hj
        exact absurd hwv (hs.elsewhere hset hk hi hmem hj hjk v hv)

/-- **Windows go to another workspace of their monitor.** -/
theorem Sound.placed_within (hremoved : ws.Removed windows ws')
    (hreceived : ({ mon with workspaces := mon.workspaces.set i ws' } : Monitor Id).Received id
      windows new') (hused : ∀ v ∈ new'.workspaces, v.hasWindowsOrName = true → v ∈ mon₂.workspaces)
    (hcut : new'.Trimmed mon₂)
    (hset' : self'.monitorSet = .normal (monitors.set k mon₂) primaryIdx' activeIdx') :
    ∀ w ∈ windows, self'.PlacedOn mon.output id w := by
  intro w hw
  have hmem : w ∈ ws.ids := hremoved.ids.mem_iff.mpr (mem_append_left _ hw)
  obtain ⟨hltk, -⟩ := List.getElem?_eq_some_iff.mp hk
  have hmonitors : self'.monitorSet.monitors = monitors.set k mon₂ := by
    rw [hset']
    rfl
  have houtput : mon₂.output = mon.output := hcut.output.trans hreceived.output
  refine ⟨?_, ?_⟩
  · obtain ⟨v, hv, hid, hin⟩ := hreceived.target
    have hvUsed : v.hasWindowsOrName = true := by
      by_contra hunused
      exact not_mem_of_unused (by simpa using hunused) (hin w hw)
    refine ⟨mon₂, ?_, houtput, v, hused v hv hvUsed, hid, hin w hw⟩
    rw [hmonitors]
    exact mem_set hltk _
  · rintro output' id' ⟨m, hm, hout, u, hu, huid, huw⟩
    rw [hmonitors] at hm
    obtain ⟨j, hj⟩ := mem_iff_getElem?.mp hm
    by_cases hjk : k = j
    · subst hjk
      rw [List.getElem?_set_self hltk] at hj
      cases hj
      rcases hreceived.only u (hcut.workspaces.sublist.subset hu) w huw with ⟨hid', -⟩ | ⟨u₀, hu₀, -, hw₀⟩
      · exact ⟨hout.symm.trans houtput, huid.symm.trans hid'⟩
      · exact absurd hw₀ (hs.gone hset hk hi hremoved hw u₀ hu₀)
    · rw [List.getElem?_set_ne hjk] at hj
      exact absurd huw (hs.elsewhere hset hk hi hmem hj hjk u hu)

/-- The monitors before the move: the window comes to the target, and the source is cleaned up. -/
theorem Sound.moved_elsewhere (hremoved : ws.Removed [window] ws') (hn : monitors[n]? = some new)
    (hne : k ≠ n) (hreceived : new.Received id [window] new')
    (hclean : ({ mon with workspaces := mon.workspaces.set i ws' } : Monitor Id).cleanUpIfIdle =
      some mon₂)
    (hset' : self'.monitorSet = .normal ((monitors.set n new').set k mon₂) primaryIdx' activeIdx') :
    self'.PlacedOn new.output id window ∧
      (new'.activeWorkspace.map (·.id) = new.activeWorkspace.map (·.id) →
        (self'.activeIds = self.activeIds ↔ ¬ MergesAfter mon window)) := by
  have hwf : mon.WellFormed nextId := hs.monitors mon (by rw [hset]; exact mem_of_getElem? hk)
  obtain ⟨htidy, hroomy⟩ := hwf.taken hi hremoved (by simp)
  obtain ⟨mon₂', hclean', hcut, -, hfocus⟩ := cleanUpIfIdle_spec htidy hroomy
  cases some.inj (hclean.symm.trans hclean')
  have hmonitors : self'.monitorSet.monitors = (monitors.set n new').set k mon₂ := by
    rw [hset']
    rfl
  refine ⟨hs.placed_elsewhere hset hk hi hremoved hn hne hreceived
    (fun v hv => hcut.workspaces.sublist.subset hv) hset' window (by simp), fun hsame => ?_⟩
  have hgetk : (monitors.set n new')[k]? = some mon := by
    rw [List.getElem?_set_ne hne.symm, hk]
  have hactive := activeWorkspace_set hi hremoved.id
  unfold activeIds
  rw [hmonitors, hset]
  have hnew := (map_set_eq_iff (f := fun m => m.activeWorkspace.map (·.id)) hn).mpr hsame
  rw [show (MonitorSet.normal monitors primaryIdx activeIdx).monitors = monitors from rfl,
    ← hnew, map_set_eq_iff hgetk, ← hs.merges_iff hset hk hi hremoved, ← hfocus, hactive]

/-- The same on one monitor: it is never left without windows. -/
theorem Sound.moved_within (hremoved : ws.Removed [window] ws')
    (hreceived : ({ mon with workspaces := mon.workspaces.set i ws' } : Monitor Id).Received id
      [window] new') {nextId' : WorkspaceId} (htidy : new'.Tidy nextId') (hroomy : new'.Roomy)
    (hclean : new'.cleanUpIfIdle = some mon₂)
    (hset' : self'.monitorSet = .normal (monitors.set k mon₂) primaryIdx' activeIdx') :
    self'.PlacedOn mon.output id window ∧
      (new'.activeWorkspace.map (·.id) =
          (Monitor.activeWorkspace { mon with workspaces := mon.workspaces.set i ws' }).map
            (·.id) →
        self'.activeIds = self.activeIds) := by
  obtain ⟨mon₂', hclean', hcut, hused, hfocus⟩ := cleanUpIfIdle_spec htidy hroomy
  cases some.inj (hclean.symm.trans hclean')
  have hmonitors : self'.monitorSet.monitors = monitors.set k mon₂ := by
    rw [hset']
    rfl
  refine ⟨hs.placed_within hset hk hi hremoved hreceived hused hcut hset' window (by simp),
    fun hsame => ?_⟩
  obtain ⟨v, hv, hid, hin⟩ := hreceived.target
  have hactive := activeWorkspace_set hi hremoved.id
  unfold activeIds
  rw [hmonitors, hset, show (MonitorSet.normal monitors primaryIdx activeIdx).monitors = monitors
    from rfl, map_set_eq_iff hk, ← hactive, ← hsame, hfocus]
  rintro ⟨-, -, -, hnone⟩
  exact not_mem_of_unused (hnone v hv) (hin window (by simp))

end

end Places

end Layout

variable [DecidableEq Id]

/-! ## What is taken -/

theorem ScrollingSpace.removeTileByIdx_tile {s : ScrollingSpace Id} (h : s.Inv False)
    (columnIdx tileIdx : ℕ) :
    Ensures (s.removeTileByIdx columnIdx tileIdx) fun p =>
      ∃ column, s.columns[columnIdx]? = some column ∧ column.tiles[tileIdx]? = some p.1.tile := by
  have hremoved : ∀ {l l' : List (Tile Id)} {t : Tile Id}, Vec.removeAt l tileIdx = some (t, l') →
      l[tileIdx]? = some t := by
    intro l l' t ht
    obtain ⟨front, rest, rfl, rfl, -⟩ := Vec.removeAt_eq_some.mp ht
    exact Vec.getElem?_append_length ..
  refine Ensures.self.bind fun source hsource => Ensures.ite (fun _ => ?_) fun _ => ?_
  · refine (removeColumnByIdx_inv h columnIdx).bind fun p hp => Ensures.self.bind fun q hq => ?_
    exact of_pure ⟨p.1, hp.2.2.2.2.2.1, hremoved hq⟩
  · refine Ensures.self.bind fun p hp => Ensures.self.bind fun _ _ => of_pure ?_
    obtain ⟨q, hq, hp⟩ := bind_eq_some_iff.mp hp
    obtain ⟨_, -, hp⟩ := bind_eq_some_iff.mp hp
    obtain ⟨_, -, hp⟩ := bind_eq_some_iff.mp hp
    obtain ⟨_, -, hp⟩ := bind_eq_some_iff.mp hp
    cases hp
    exact ⟨source, hsource, hremoved hq⟩

variable {w : Workspace Id}

/-- `remove_tile` takes the window asked for. -/
theorem Workspace.removeTile_tile (h : w.Inv) (id : Id) (expected : Option ISize) :
    Ensures (w.removeTile id expected) fun p => p.1.tile.id = id := by
  refine Ensures.ite (fun _ => ?_) fun _ => ?_
  · refine (FloatingSpace.removeTile_inv h.floating id expected).bind fun p hp => ?_
    exact of_pure hp.2
  · have htile : Ensures (w.scrolling.removeTile id) fun p => p.1.tile.id = id := by
      refine Ensures.self.bind fun found hfound =>
        (ScrollingSpace.removeTileByIdx_tile h.scrolling found.1 found.2).mono fun p hp => ?_
      obtain ⟨colIdx, -, hfound⟩ := bind_eq_some_iff.mp hfound
      obtain ⟨col, hcol, hfound⟩ := bind_eq_some_iff.mp hfound
      obtain ⟨tileIdx, htile, hfound⟩ := bind_eq_some_iff.mp hfound
      cases hfound
      obtain ⟨column, hcolumn, htaken⟩ := hp
      cases some.inj (hcolumn.symm.trans hcol)
      obtain ⟨hlt, hid, -⟩ := List.findIdx?_eq_some_iff_getElem.mp htile
      rw [List.getElem?_eq_getElem hlt] at htaken
      rw [← some.inj htaken]
      simpa using hid
    exact htile.bind fun p hp => of_pure hp

/-- `remove_active_tile` takes the active window. -/
theorem Workspace.removeActiveTile_tile (h : w.Inv) (expected : Option ISize) :
    Ensures (w.removeActiveTile expected) fun p =>
      p.1.map (·.tile.id) = w.activeWindow.map Window.id := by
  unfold activeWindow
  refine Ensures.ite (fun hfloats => ?_) fun hfloats => ?_
  · rw [if_pos hfloats]
    have htile : Ensures (w.floating.removeActiveTile expected) fun p =>
        p.1.map (·.tile.id) = w.floating.activeWindow.map Window.id := by
      unfold FloatingSpace.removeActiveTile FloatingSpace.activeWindow
      cases hactive : w.floating.activeWindowId with
      | none => exact of_some rfl
      | some id =>
        refine (FloatingSpace.removeTile_inv h.floating id expected).bind fun p hp =>
          of_pure ?_
        obtain ⟨t, ht, htid⟩ : ∃ t ∈ w.floating.tiles, t.id = id := by
          obtain ⟨stamp, hstamp, hid⟩ := mem_map.mp (h.floating.active_mem id hactive)
          obtain ⟨t, ht, rfl⟩ := mem_map.mp hstamp
          exact ⟨t, ht, hid⟩
        obtain ⟨t', ht'⟩ := isSome_iff_exists.mp
          (List.find?_isSome (p := fun t : Tile Id => t.id = id) |>.mpr ⟨t, ht, by simpa using htid⟩)
        have hid : t'.id = id := by simpa using List.find?_some ht'
        rw [bind_eq_bind, bind_some, ht']
        exact congrArg some (hp.2.trans hid.symm)
    refine htile.bind fun p hp => Ensures.ite (fun hnone => of_pure ?_) fun _ => of_pure hp
    rw [isNone_iff_eq_none.mp hnone] at hp
    exact hp
  · rw [if_neg hfloats]
    have htile : Ensures w.scrolling.removeActiveTile fun p =>
        p.1.map (·.tile.id) = w.scrolling.activeWindow.map Window.id := by
      unfold ScrollingSpace.activeWindow
      refine Ensures.ite (fun hempty => of_pure ?_) fun _ => Ensures.self.bind fun column hcolumn => ?_
      · rw [isEmpty_iff.mp hempty]
        rfl
      · refine (ScrollingSpace.removeTileByIdx_tile h.scrolling _ _).bind fun p hp =>
          of_pure ?_
        obtain ⟨column', hcolumn', htaken⟩ := hp
        cases some.inj (hcolumn'.symm.trans hcolumn)
        rw [hcolumn]
        dsimp only [bind_eq_bind, bind_some]
        rw [htaken]
        rfl
    refine htile.bind fun p hp => Ensures.ite (fun hnone => of_pure ?_) fun _ => of_pure hp
    rw [isNone_iff_eq_none.mp hnone] at hp
    exact hp

/-- The active window is on the workspace. -/
theorem Workspace.activeWindow_mem {window : Id} (h : w.activeWindow.map Window.id = some window) :
    window ∈ w.ids := by
  obtain ⟨win, hwin, rfl⟩ := map_eq_some_iff.mp h
  unfold activeWindow at hwin
  split_ifs at hwin
  · obtain ⟨id, -, hwin⟩ := bind_eq_some_iff.mp hwin
    obtain ⟨tile, htile, hwin⟩ := bind_eq_some_iff.mp hwin
    cases hwin
    exact mem_append_right _ (mem_map_of_mem (mem_of_find?_eq_some htile))
  · obtain ⟨col, hcol, hwin⟩ := bind_eq_some_iff.mp hwin
    obtain ⟨tile, htile, hwin⟩ := bind_eq_some_iff.mp hwin
    cases hwin
    exact mem_append_left _ (mem_flatMap.mpr
      ⟨col, mem_of_getElem? hcol, mem_map_of_mem (mem_of_getElem? htile)⟩)

namespace Monitor

variable {mon mon' : Monitor Id} {nextId : WorkspaceId}

/-- A window leaves a workspace. -/
theorem takeTarget_spec (hinv : ∀ ws ∈ mon.workspaces, ws.Inv) (idx : ℕ)
    (expected : Option ISize) (window : Option Id) :
    Ensures (mon.takeTarget idx expected window) fun p =>
      ∃ ws ws', mon.workspaces[idx]? = some ws ∧
        p.2 = { mon with workspaces := mon.workspaces.set idx ws' } ∧
        (p.1.map (·.tile.id) = window.or (ws.activeWindow.map Window.id)) ∧
        ((∃ removed, p.1 = some removed ∧ ws.Removed [removed.tile.id] ws') ∨
          p.1 = none ∧ ws' = ws) := by
  cases window with
  | some window =>
    refine Ensures.bind (P := fun q => ∃ ws ws', mon.workspaces[idx]? = some ws ∧
      q.2 = { mon with workspaces := mon.workspaces.set idx ws' } ∧ q.1.tile.id = window ∧
        ws.Removed [q.1.tile.id] ws') ?_ ?_
    · refine Ensures.self.bind fun ws hws => ?_
      have hmem := hinv ws (mem_of_getElem? hws)
      refine ((removeTile_inv hmem window expected).and
        (removeTile_tile hmem window expected)).bind fun q hq => of_pure ?_
      exact ⟨ws, q.2, hws, rfl, hq.2, hq.1⟩
    · rintro ⟨removed, mon'⟩ ⟨ws, ws', hws, hmon, hid, hremoved⟩
      exact of_pure ⟨ws, ws', hws, hmon, congrArg some hid, .inl ⟨removed, rfl, hremoved⟩⟩
  | none =>
    refine Ensures.self.bind fun ws hws => ?_
    have hmem := hinv ws (mem_of_getElem? hws)
    refine ((removeActiveTile_inv hmem expected).and
      (removeActiveTile_tile hmem expected)).bind fun q hq => of_pure ?_
    exact ⟨ws, q.2, hws, rfl, hq.2, hq.1⟩

variable {ws : Workspace Id} {idx : ℕ}

/-- The active column leaves a workspace whose tiled windows have the focus. -/
theorem takeActiveColumn_spec (hinv : ∀ ws ∈ mon.workspaces, ws.Inv)
    (hget : mon.workspaces[idx]? = some ws) (htiled : ws.isFloatingActive = false) :
    Ensures (mon.takeActiveColumn idx) fun p =>
      ∃ ws', p.2 = { mon with workspaces := mon.workspaces.set idx ws' } ∧
        p.1 = ws.scrolling.columns[ws.scrolling.activeColumnIdx]? ∧
        ((∃ column, p.1 = some column ∧ column.Inv False ∧ ws.Removed column.ids ws') ∨
          p.1 = none) := by
  refine Ensures.self.bind fun ws₀ hws₀ => ?_
  cases some.inj (hget.symm.trans hws₀)
  have hmem := hinv ws (mem_of_getElem? hget)
  have hactive : Ensures ws.removeActiveColumn fun p =>
      p.1 = ws.scrolling.columns[ws.scrolling.activeColumnIdx]? := by
    refine Ensures.ite (fun hfloats => ?_) fun _ => ?_
    · rw [htiled] at hfloats
      cases hfloats
    have hcolumn : Ensures ws.scrolling.removeActiveColumn fun p =>
        p.1 = ws.scrolling.columns[ws.scrolling.activeColumnIdx]? := by
      refine Ensures.ite (fun hempty => of_pure ?_) fun _ => ?_
      · rw [isEmpty_iff.mp hempty]
        rfl
      · exact (ScrollingSpace.removeColumnByIdx_inv hmem.scrolling _).bind fun p hp =>
          of_pure hp.2.2.2.2.2.1.symm
    refine hcolumn.bind fun p hp => Ensures.ite (fun hnone => of_pure ?_) fun _ =>
      of_pure hp
    rw [isNone_iff_eq_none.mp hnone] at hp
    exact hp
  refine ((removeActiveColumn_inv hmem).and hactive).bind fun q hq => of_pure ?_
  obtain ⟨hcase, hq⟩ := hq
  refine ⟨q.2, rfl, hq, hcase.imp_right fun h => h.1⟩

variable (geometry : Output → OutputGeometry)

/-- A tile comes to a workspace. -/
theorem addTile_received (h : mon.Tidy nextId) (hget : mon.workspaces[idx]? = some ws)
    (hinv : ws.Inv) {tile : Tile Id} (hfresh : tile.id ∉ ws.ids) (activate : ActivateWindow)
    (width : ColumnWidth) (isFullWidth isFloating : Bool) :
    YieldsFrom geometry nextId
      (mon.addTile tile (.workspace ws.id none) activate true width isFullWidth isFloating)
      fun mon' nextId' => mon'.Tidy nextId' ∧ mon'.Roomy ∧ mon.Received ws.id [tile.id] mon' ∧
        (activate.mapSmart false = false →
          mon'.activeWorkspace.map (·.id) = mon.activeWorkspace.map (·.id)) := by
  have hresolve : Ensures (mon.resolveAddWindowTarget (.workspace ws.id none)) fun p =>
      p = (idx, .auto) := by
    intro p hp
    obtain ⟨i, hi, hp⟩ := bind_eq_some_iff.mp hp
    cases some.inj (hi.symm.trans (findIdx_id h.ids hget))
    exact (some.inj hp).symm
  refine lift_bind hresolve ?_
  rintro p rfl
  exact fillWorkspace_settle geometry h hget _
    (addTile_inv hinv tile .auto activate width isFullWidth isFloating hfresh)

/-- A column comes to a workspace. -/
theorem addColumn_received (h : mon.Tidy nextId) (hget : mon.workspaces[idx]? = some ws)
    (hinv : ws.Inv) {column : Column Id} (hcolumn : column.Inv False)
    (hnodup : (column.ids ++ ws.ids).Nodup) (activate : Bool) :
    YieldsFrom geometry nextId (mon.addColumn idx column activate) fun mon' nextId' =>
      mon'.Tidy nextId' ∧ mon'.Roomy ∧ mon.Received ws.id column.ids mon' ∧
        (activate = false →
          mon'.activeWorkspace.map (·.id) = mon.activeWorkspace.map (·.id)) :=
  fillWorkspace_settle geometry h hget activate
    (addColumn_inv hinv activate hcolumn hnodup)

end Monitor

namespace Layout

/-! ## Moves -/

variable (self : Layout Id)

/-- The workspace that has the focus. -/
def focusedWorkspace : Option (Workspace Id) :=
  match self.monitorSet with
  | .normal monitors _ activeMonitorIdx => (monitors[activeMonitorIdx]?).bind Monitor.activeWorkspace
  | .noOutputs _ => none

/-- The window that has the focus. -/
def focusedWindow : Option Id :=
  (self.focusedWorkspace.bind Workspace.activeWindow).map Window.id

/-- The window that `move_to_output` is about: none while it is moved interactively. -/
def windowToMove (window : Option Id) : Option Id :=
  if self.isMoving window then none else window.or self.focusedWindow

/-- The windows that `move_column_to_output` is about: the active column, or the focused window
    where that one is floating. -/
def columnToMove : List Id :=
  match self.focusedWorkspace with
  | some ws =>
    if ws.isFloatingActive then (self.windowToMove none).toList
    else ((ws.scrolling.columns[ws.scrolling.activeColumnIdx]?).map Column.ids).getD []
  | none => []

/-- Whether `move_to_output` is to activate the window where it goes. -/
def activates (window : Option Id) (activate : ActivateWindow) : Bool :=
  activate.mapSmart (window.isNone || self.focusedWindow = window)

/-- A move to another output leaves its monitor so. -/
def LosesSource (window : Option Id) (output : Output) : Prop :=
  ∃ w, self.windowToMove window = some w ∧
    ∃ mon ∈ self.monitorSet.monitors, mon.output ≠ output ∧ w ∈ mon.ids ∧ MergesAfter mon w

variable {self : Layout Id} {nextId : WorkspaceId} {monitors : List (Monitor Id)}
  {primaryIdx activeIdx : ℕ}

/-- Where `move_to_output` finds its window. -/
theorem source_spec (hs : self.Sound nextId)
    (hset : self.monitorSet = .normal monitors primaryIdx activeIdx) (window : Option Id) :
    Ensures (match window with
      | some window => MonitorSet.findMonitorWorkspaceByRef.findPosition monitors (·.hasWindow window)
      | none => (monitors[activeIdx]?).map fun mon => (activeIdx, mon.activeWorkspaceIdx))
    fun p => ∃ mon ws, monitors[p.1]? = some mon ∧ mon.workspaces[p.2]? = some ws ∧
      window.or (ws.activeWindow.map Window.id) = window.or self.focusedWindow ∧
      ∀ w, window.or self.focusedWindow = some w → w ∈ ws.ids := by
  cases window with
  | some window =>
    refine Ensures.self.bind fun i _ => Ensures.self.bind fun mon hmon =>
      Ensures.self.bind fun j hj => of_pure ?_
    obtain ⟨hlt, hhas, -⟩ := List.findIdx?_eq_some_iff_getElem.mp hj
    refine ⟨mon, _, hmon, List.getElem?_eq_getElem hlt, rfl, fun w hw => ?_⟩
    cases hw
    exact hasWindow_iff.mp hhas
  | none =>
    intro p hp
    obtain ⟨mon, hmon, rfl⟩ := map_eq_some_iff.mp hp
    have hwf : mon.WellFormed nextId :=
      hs.monitors mon (by rw [hset]; exact mem_of_getElem? hmon)
    have hactive := hwf.active
    have hget := List.getElem?_eq_getElem hactive
    have hfocused : self.focusedWindow =
        (mon.workspaces[mon.activeWorkspaceIdx].activeWindow).map Window.id := by
      unfold focusedWindow focusedWorkspace
      rw [hset]
      dsimp only
      rw [hmon, bind_some, Monitor.activeWorkspace, hget, bind_some]
    refine ⟨mon, _, hmon, hget, by rw [hfocused], fun w hw => ?_⟩
    rw [hfocused] at hw
    exact activeWindow_mem hw

variable {window : Option Id} {mon : Monitor Id} {ws : Workspace Id} {new : Monitor Id} {newIdx : ℕ}
variable {target : Workspace Id} {k i : ℕ}

/-- Whether to activate: the source looks at the monitor that the window is on. -/
theorem activates_eq (hs : self.Sound nextId)
    (hset : self.monitorSet = .normal monitors primaryIdx activeIdx) (hk : monitors[k]? = some mon)
    (hi : mon.workspaces[i]? = some ws)
    (hmem : ∀ w, window.or self.focusedWindow = some w → w ∈ ws.ids) (activate : ActivateWindow) :
    activate.mapSmart (window.isNone ||
        (k = activeIdx && mon.activeWindow.map Window.id = window)) =
      self.activates window activate := by
  cases window with
  | none => rfl
  | some w =>
    have hw : w ∈ ws.ids := hmem w rfl
    have hfocused : ∀ m, monitors[activeIdx]? = some m →
        self.focusedWindow = m.activeWindow.map Window.id := by
      intro m hm
      unfold focusedWindow focusedWorkspace
      rw [hset]
      dsimp only
      rw [hm, bind_some, Monitor.activeWindow]
    have hiff : (k = activeIdx ∧ mon.activeWindow.map Window.id = some w) ↔
        self.focusedWindow = some w := by
      constructor
      · rintro ⟨rfl, hactive⟩
        rw [hfocused mon hk, hactive]
      · intro hfocus
        obtain ⟨-, hlt⟩ := hs.indices _ _ _ hset
        have hm := List.getElem?_eq_getElem hlt
        rw [hfocused _ hm, Monitor.activeWindow] at hfocus
        obtain ⟨win, hwin, hid⟩ := map_eq_some_iff.mp hfocus
        obtain ⟨v, hv, hvwin⟩ := bind_eq_some_iff.mp hwin
        have hwv : w ∈ v.ids := activeWindow_mem (by rw [hvwin, ← hid, map_some])
        obtain ⟨rfl, -⟩ := hs.place_unique hset hk hi hw hm hv hwv
        cases some.inj (hk.symm.trans hm)
        refine ⟨rfl, ?_⟩
        rw [Monitor.activeWindow, hwin, map_some, hid]
    congr 1
    rw [isNone_some, Bool.false_or, Bool.false_or, ← Bool.decide_and]
    exact decide_eq_decide.mpr hiff

/-- What `move_to_output` does: to the window, to the focus, and where there is nothing to do. -/
structure Outcome (old : Layout Id) (window : Option Id) (activate : ActivateWindow)
    (new : Monitor Id) (newIdx : ℕ) (target : Workspace Id) (layout : Layout Id) : Prop where
  placed : ∀ w, old.windowToMove window = some w → layout.PlacedOn new.output target.id w
  focus : old.activates window activate = false →
    (old.SameFocus layout ↔ ¬ old.LosesSource window new.output)
  follows : old.activates window activate = true → ∀ w, old.windowToMove window = some w →
    w ∉ new.ids → layout.activeMonitorIdx = some newIdx
  stays : (∀ w, old.windowToMove window = some w → w ∈ target.ids) → layout = old

/-- There is nothing to move. -/
theorem Outcome.nothing {activate : ActivateWindow} (h : self.windowToMove window = none) :
    self.Outcome window activate new newIdx target self where
  placed w hw := by
    rw [h] at hw
    cases hw
  focus _ := iff_of_true (SameFocus.refl self) fun ⟨w, hw, _⟩ => by
    rw [h] at hw
    cases hw
  follows _ w hw _ := by
    rw [h] at hw
    cases hw
  stays _ := rfl

/-- The source of a move is left so, or not. -/
theorem losesSource_iff (hs : self.Sound nextId)
    (hset : self.monitorSet = .normal monitors primaryIdx activeIdx) {w : Id}
    (hw : self.windowToMove window = some w) (hk : monitors[k]? = some mon)
    (hi : mon.workspaces[i]? = some ws) (hmem : w ∈ ws.ids) (output : Output) :
    self.LosesSource window output ↔ mon.output ≠ output ∧ MergesAfter mon w := by
  constructor
  · rintro ⟨w', hw', mon', hmon', hne, hin, hmerges⟩
    cases some.inj (hw.symm.trans hw')
    rw [hset] at hmon'
    obtain ⟨k', hk'⟩ := mem_iff_getElem?.mp hmon'
    obtain ⟨v, hv, hwv⟩ := mem_flatMap.mp hin
    obtain ⟨i', hi'⟩ := mem_iff_getElem?.mp hv
    obtain ⟨rfl, -⟩ := hs.place_unique hset hk hi hmem hk' hi' hwv
    cases some.inj (hk.symm.trans hk')
    exact ⟨hne, hmerges⟩
  · rintro ⟨hne, hmerges⟩
    refine ⟨w, hw, mon, ?_, hne, mem_flatMap.mpr ⟨ws, mem_of_getElem? hi, hmem⟩, hmerges⟩
    rw [hset]
    exact mem_of_getElem? hk

/-- The window is at the target already. -/
theorem Outcome.already (hs : self.Sound nextId)
    (hset : self.monitorSet = .normal monitors primaryIdx activeIdx) (activate : ActivateWindow)
    (hk : monitors[k]? = some mon) (hi : mon.workspaces[i]? = some ws)
    (hmem : ∀ w, self.windowToMove window = some w → w ∈ ws.ids) :
    self.Outcome window activate mon k ws self where
  placed w hw := by
    have hw' := hmem w hw
    refine ⟨⟨mon, ?_, rfl, ws, mem_of_getElem? hi, rfl, hw'⟩, ?_⟩
    · rw [hset]
      exact mem_of_getElem? hk
    · rintro output' id' ⟨m, hm, hout, v, hv, hid, hwv⟩
      rw [hset] at hm
      obtain ⟨k', hk'⟩ := mem_iff_getElem?.mp hm
      obtain ⟨i', hi'⟩ := mem_iff_getElem?.mp hv
      obtain ⟨rfl, rfl⟩ := hs.place_unique hset hk hi hw' hk' hi' hwv
      cases some.inj (hk.symm.trans hk')
      cases some.inj (hi.symm.trans hi')
      exact ⟨hout.symm, hid.symm⟩
  focus _ := by
    refine iff_of_true (SameFocus.refl self) ?_
    rintro ⟨w, hw, hloses⟩
    exact ((losesSource_iff hs hset hw hk hi (hmem w hw) mon.output).mp ⟨w, hw, hloses⟩).1 rfl
  follows _ w hw hnot :=
    absurd (mem_flatMap.mpr ⟨ws, mem_of_getElem? hi, hmem w hw⟩) hnot
  stays _ := rfl

theorem moveToOutput_outcome (hs : self.Sound nextId)
    (hset : self.monitorSet = .normal monitors primaryIdx activeIdx)
    (hn : monitors[newIdx]? = some new) {targetWsIdx : Option ℕ}
    (ht : new.workspaces[targetWsIdx.getD new.activeWorkspaceIdx]? = some target)
    (geometry : Output → OutputGeometry) (window : Option Id) (activate : ActivateWindow)
    (expected : Option ISize) :
    YieldsFrom geometry nextId (self.moveToOutput window new.output targetWsIdx activate expected)
      fun self' _ => self.Outcome window activate new newIdx target self' := by
  refine YieldsFrom.ite (fun hmoving => YieldsFrom.of_pure (.nothing (if_pos hmoving)))
    fun hmoving => ?_
  have hwindow : self.windowToMove window = window.or self.focusedWindow := if_neg hmoving
  rw [hset]
  refine lift_bind (hs.findIdx_output hset hn) ?_
  rintro newIdx rfl
  refine YieldsFrom.bind (P := fun p s => s = nextId ∧ ∃ mon ws, monitors[p.1]? = some mon ∧
    mon.workspaces[p.2]? = some ws ∧
      window.or (ws.activeWindow.map Window.id) = window.or self.focusedWindow ∧
      ∀ w, window.or self.focusedWindow = some w → w ∈ ws.ids) ?_ ?_
  · cases window with
    | some w => exact YieldsFrom.lift (source_spec hs hset (some w))
    | none => exact YieldsFrom.lift (source_spec hs hset none)
  rintro ⟨monIdx, wsIdx⟩ nextId ⟨rfl, mon, ws, hk, hi, hor, hmem⟩
  refine lift_bind Ensures.self fun new' hn' => ?_
  cases some.inj (hn.symm.trans hn')
  obtain ⟨hlt, -⟩ := List.getElem?_eq_some_iff.mp ht
  refine YieldsFrom.ite (fun hsame => YieldsFrom.of_pure ?_) fun hdiff =>
    YieldsFrom.ite (fun hle => absurd hlt (not_lt.mpr hle)) fun _ => ?_
  · obtain ⟨rfl, rfl⟩ := hsame
    cases some.inj (hn.symm.trans hk)
    cases some.inj (ht.symm.trans hi)
    exact .already hs hset activate hn ht fun w hw => hmem w (hwindow.symm.trans hw)
  refine lift_bind Ensures.self fun target' ht' => ?_
  cases some.inj (ht.symm.trans ht')
  refine lift_bind Ensures.self fun mon' hk' => ?_
  cases some.inj (hk.symm.trans hk')
  rw [activates_eq hs hset hk hi hmem]
  have hspaces : ∀ m ∈ monitors, ∀ v ∈ m.workspaces, v.Inv := fun m hm v hv =>
    hs.spaces v (by
      rw [workspaces, hset]
      exact mem_flatMap.mpr ⟨m, hm, hv⟩)
  refine lift_bind
    (takeTarget_spec (hspaces mon (mem_of_getElem? hk)) wsIdx expected window) ?_
  rintro ⟨removed, mon₁⟩ ⟨ws₀, ws', hws₀, hmon₁, hid, hcase⟩
  cases some.inj (hi.symm.trans hws₀)
  subst hmon₁
  rw [hor, ← hwindow] at hid
  rcases hcase with ⟨removed, rfl, hremoved⟩ | ⟨rfl, -⟩
  · have hw : self.windowToMove window = some removed.tile.id := hid.symm
    have hin : removed.tile.id ∈ ws.ids := hmem _ (hwindow.symm.trans hw)
    have hwfMon : mon.WellFormed nextId :=
      hs.monitors mon (by rw [hset]; exact mem_of_getElem? hk)
    have hwfNew : new.WellFormed nextId :=
      hs.monitors new (by rw [hset]; exact mem_of_getElem? hn)
    have hlosesIff := losesSource_iff hs hset hw hk hi hin new.output
    refine lift_bind Ensures.self fun new₁ hnew₁ => ?_
    by_cases hmonIdx : monIdx = newIdx
    · subst hmonIdx
      cases some.inj (hn.symm.trans hk)
      obtain ⟨hltk, -⟩ := List.getElem?_eq_some_iff.mp hk
      rw [List.getElem?_set_self hltk] at hnew₁
      cases hnew₁
      have hne : wsIdx ≠ targetWsIdx.getD new.activeWorkspaceIdx := fun heq => hdiff ⟨rfl, heq⟩
      have htarget : (new.workspaces.set wsIdx ws')[targetWsIdx.getD new.activeWorkspaceIdx]? =
          some target := by
        rw [List.getElem?_set_ne hne, ht]
      have hfresh : removed.tile.id ∉ target.ids :=
        hs.gone hset hk hi hremoved (by simp) target (mem_of_getElem? htarget)
      refine (addTile_received geometry (hwfMon.taken hi hremoved (by simp)).1 htarget
        (hspaces new (mem_of_getElem? hk) target (mem_of_getElem? ht)) hfresh _ _ _ _).bind
          fun new' n' hadded => ?_
      obtain ⟨htidy, hroomy, hreceived, hfocus⟩ := hadded
      refine lift_bind Ensures.self fun mon₁ hmon₁ => ?_
      rw [List.getElem?_set_self (by simpa using hltk)] at hmon₁
      cases hmon₁
      refine lift_bind Ensures.self fun mon₂ hclean => YieldsFrom.of_pure ?_
      rw [set_set, set_set]
      set moved := MonitorSet.normal (monitors.set monIdx mon₂) primaryIdx
        (if self.activates window activate = true then monIdx else activeIdx) with hmoved
      have hidx : Layout.activeMonitorIdx { self with monitorSet := moved } =
          some (if self.activates window activate = true then monIdx else activeIdx) := rfl
      obtain ⟨hplaced, hids⟩ := hs.moved_within hset hk hi hremoved hreceived htidy hroomy hclean
        (show Layout.monitorSet { self with monitorSet := moved } = _ from hmoved)
      refine ⟨fun w hw' => ?_, fun hoff => iff_of_true ⟨?_, hids (hfocus ?_)⟩ fun hloses => ?_,
        fun hon _ _ _ => ?_, fun hall => absurd (hall _ hw) hfresh⟩
      · cases some.inj (hw.symm.trans hw')
        exact hplaced
      · rw [hidx, hoff, activeMonitorIdx, hset]
        rfl
      · rw [hoff]
        rfl
      · exact (hlosesIff.mp hloses).1 rfl
      · rw [hidx, if_pos hon]
    · rw [List.getElem?_set_ne hmonIdx] at hnew₁
      cases some.inj (hn.symm.trans hnew₁)
      have hfresh : removed.tile.id ∉ target.ids :=
        hs.elsewhere hset hk hi hin hn hmonIdx target (mem_of_getElem? ht)
      refine (addTile_received geometry hwfNew.tidy ht
        (hspaces new (mem_of_getElem? hn) target (mem_of_getElem? ht)) hfresh _ _ _ _).bind
          fun new' n' hadded => ?_
      obtain ⟨-, -, hreceived, hfocus⟩ := hadded
      refine lift_bind Ensures.self fun mon₁ hmon₁ => ?_
      refine lift_bind Ensures.self fun mon₂ hclean => YieldsFrom.of_pure ?_
      obtain ⟨hltk, -⟩ := List.getElem?_eq_some_iff.mp hk
      rw [List.getElem?_set_ne (Ne.symm hmonIdx), List.getElem?_set_self hltk] at hmon₁
      cases hmon₁
      rw [set_comm _ _ hmonIdx, set_set]
      set moved := MonitorSet.normal ((monitors.set newIdx new').set monIdx mon₂) primaryIdx
        (if self.activates window activate = true then newIdx else activeIdx) with hmoved
      have hidx : Layout.activeMonitorIdx { self with monitorSet := moved } =
          some (if self.activates window activate = true then newIdx else activeIdx) := rfl
      obtain ⟨hplaced, hids⟩ := hs.moved_elsewhere hset hk hi hremoved hn hmonIdx hreceived hclean
        (show Layout.monitorSet { self with monitorSet := moved } = _ from hmoved)
      have houtputs : mon.output ≠ new.output := fun heq =>
        hmonIdx (hs.output_inj hset hk hn heq)
      refine ⟨fun w hw' => ?_, fun hoff => ?_, fun hon _ _ _ => ?_,
        fun hall => absurd (hall _ hw) hfresh⟩
      · cases some.inj (hw.symm.trans hw')
        exact hplaced
      · have hsame := hids (hfocus (by rw [hoff]; rfl))
        rw [hlosesIff, not_and, forall_prop_of_true houtputs, ← hsame]
        refine ⟨fun h => h.workspaces, fun h => ⟨?_, h⟩⟩
        rw [hidx, hoff, activeMonitorIdx, hset]
        rfl
      · rw [hidx, if_pos hon]
  · exact YieldsFrom.of_pure (.nothing hid.symm)

/-! ## Columns -/

/-- A column move that forgets its target: a floating window has the focus, and it is not for the
    active workspace of the output, or the focus is not to go there. -/
def ForgetsTarget (new : Monitor Id) (newIdx idx : ℕ) (activate : Bool) : Prop :=
  (∃ ws ∈ self.focusedWorkspace, ws.isFloatingActive = true) ∧ self.windowToMove none ≠ none ∧
    ¬ (idx = new.activeWorkspaceIdx ∧ (activate = true ∨ self.activeMonitorIdx = some newIdx))

/-- What `move_column_to_output` is to do. -/
structure ColumnMoved (old : Layout Id) (output : Output) (target : Workspace Id) (activate : Bool)
    (layout : Layout Id) : Prop where
  placed : ∀ w ∈ old.columnToMove, layout.PlacedOn output target.id w
  focus : activate = false → old.SameFocus layout

section

variable (hs : self.Sound nextId) (hset : self.monitorSet = .normal monitors primaryIdx activeIdx)
  (hn : monitors[newIdx]? = some new)
include hs hset hn

/-- **A column of tiled windows goes where it is sent**, and the focus stays if it is to. -/
theorem moveColumnToOutput_tiled {idx : ℕ} (ht : new.workspaces[idx]? = some target)
    (htiled : ∀ ws ∈ self.focusedWorkspace, ws.isFloatingActive = false)
    (geometry : Output → OutputGeometry) (activate : Bool) (expected : Option ISize) :
    YieldsFrom geometry nextId
      (self.moveColumnToOutput new.output (some idx) activate expected)
      fun self' _ => self.ColumnMoved new.output target activate self' := by
  unfold moveColumnToOutput
  rw [hset]
  refine lift_bind (hs.findIdx_output hset hn) ?_
  rintro newIdx rfl
  refine lift_bind Ensures.self fun mon hk => ?_
  refine lift_bind Ensures.self fun ws hi => ?_
  have hfocused : self.focusedWorkspace = some ws := by
    rw [focusedWorkspace, hset]
    dsimp only
    rw [hk, bind_some, hi]
  have htiled' := htiled ws hfocused
  refine YieldsFrom.ite (fun hfloats => absurd hfloats (by rw [htiled']; decide)) fun _ => ?_
  have hcolumns : self.columnToMove =
      ((ws.scrolling.columns[ws.scrolling.activeColumnIdx]?).map Column.ids).getD [] := by
    rw [columnToMove, hfocused]
    dsimp only
    rw [htiled']
    rfl
  have hspaces : ∀ m ∈ monitors, ∀ v ∈ m.workspaces, v.Inv := fun m hm v hv =>
    hs.spaces v (by
      rw [workspaces, hset]
      exact mem_flatMap.mpr ⟨m, hm, hv⟩)
  refine lift_bind (takeActiveColumn_spec
    (hspaces mon (mem_of_getElem? hk)) hi htiled') ?_
  rintro ⟨column, mon₁⟩ ⟨ws', hmon₁, hcolumn, hcase⟩
  subst hmon₁
  rw [← hcolumn] at hcolumns
  rcases hcase with ⟨column, rfl, hinv, hremoved⟩ | rfl
  swap
  · refine YieldsFrom.of_pure ⟨fun w hw => ?_, fun _ => .refl self⟩
    rw [hcolumns] at hw
    exact absurd hw not_mem_nil
  have hne : column.ids ≠ [] := by
    unfold Column.ids
    simpa using hinv.tiles_ne
  have hcolumns' : self.columnToMove = column.ids := hcolumns
  have hin : ∀ w ∈ column.ids, w ∈ ws.ids := fun w hw =>
    hremoved.ids.mem_iff.mpr (mem_append_left _ hw)
  have hnodup : column.ids.Nodup := by
    have hwsInv := hspaces mon (mem_of_getElem? hk) ws (mem_of_getElem? hi)
    exact (nodup_append.mp (hremoved.ids.nodup_iff.mp hwsInv.nodup)).1
  have hwfMon : mon.WellFormed nextId :=
    hs.monitors mon (by rw [hset]; exact mem_of_getElem? hk)
  have hwfNew : new.WellFormed nextId :=
    hs.monitors new (by rw [hset]; exact mem_of_getElem? hn)
  obtain ⟨hltk, -⟩ := List.getElem?_eq_some_iff.mp hk
  obtain ⟨hlt, -⟩ := List.getElem?_eq_some_iff.mp ht
  refine lift_bind Ensures.self fun new₁ hnew₁ => ?_
  by_cases hmonIdx : activeIdx = newIdx
  · subst hmonIdx
    cases some.inj (hn.symm.trans hk)
    rw [List.getElem?_set_self hltk] at hnew₁
    cases hnew₁
    have hgone : ∀ w ∈ column.ids, ∀ v ∈ new.workspaces.set new.activeWorkspaceIdx ws', w ∉ v.ids :=
      fun w hw => hs.gone hset hk hi hremoved hw
    -- The column may come back to the workspace that it has just left.
    obtain ⟨target', ht', hid', hinv'⟩ : ∃ target',
        (new.workspaces.set new.activeWorkspaceIdx ws')[idx]? = some target' ∧
          target'.id = target.id ∧ target'.Inv := by
      by_cases hidx : new.activeWorkspaceIdx = idx
      · subst hidx
        cases some.inj (hi.symm.trans ht)
        exact ⟨ws', List.getElem?_set_self hlt, hremoved.id, hremoved.inv⟩
      · exact ⟨target, by rw [List.getElem?_set_ne hidx, ht], rfl,
          hspaces new (mem_of_getElem? hk) target (mem_of_getElem? ht)⟩
    have hfresh : (column.ids ++ target'.ids).Nodup := by
      refine nodup_append.mpr ⟨hnodup, hinv'.nodup, fun w hw w' hw' => ?_⟩
      rintro rfl
      exact hgone w hw target' (mem_of_getElem? ht') hw'
    have hmin : min ((some idx).getD new.activeWorkspaceIdx)
        ((new.workspaces.set new.activeWorkspaceIdx ws').length - 1) = idx := by
      rw [getD_some, length_set]
      omega
    rw [hmin]
    refine (addColumn_received geometry (hwfMon.taken hi hremoved hne).1 ht' hinv' hinv
      hfresh activate).bind fun new' n' hadded => YieldsFrom.of_pure ?_
    obtain ⟨-, -, hreceived, hfocus⟩ := hadded
    rw [hid'] at hreceived
    rw [set_set]
    set moved := MonitorSet.normal (monitors.set activeIdx new') primaryIdx
      (if activate = true then activeIdx else activeIdx) with hmoved
    have hset' : Layout.monitorSet { self with monitorSet := moved } = moved := rfl
    refine ⟨fun w hw => ?_, fun hoff => ⟨?_, ?_⟩⟩
    · rw [hcolumns'] at hw
      exact hs.placed_within hset hk hi hremoved hreceived (fun v hv _ => hv) (.refl new')
        hset' w hw
    · rw [activeMonitorIdx, hset', hmoved, hoff, activeMonitorIdx, hset]
      rfl
    · rw [activeIds, hset', activeIds, hset]
      exact (map_set_eq_iff hk).mpr
        ((hfocus hoff).trans (activeWorkspace_set hi hremoved.id))
  · rw [List.getElem?_set_ne hmonIdx] at hnew₁
    cases some.inj (hn.symm.trans hnew₁)
    have hmin : min ((some idx).getD new.activeWorkspaceIdx) (new.workspaces.length - 1) = idx := by
      rw [getD_some]
      omega
    rw [hmin]
    have hfresh : (column.ids ++ target.ids).Nodup := by
      refine nodup_append.mpr ⟨hnodup, (hspaces new (mem_of_getElem? hn) target
        (mem_of_getElem? ht)).nodup, fun w hw w' hw' => ?_⟩
      rintro rfl
      exact hs.elsewhere hset hk hi (hin w hw) hn hmonIdx target (mem_of_getElem? ht) hw'
    refine (addColumn_received geometry hwfNew.tidy ht
      (hspaces new (mem_of_getElem? hn) target (mem_of_getElem? ht)) hinv hfresh
        activate).bind fun new' n' hadded => YieldsFrom.of_pure ?_
    obtain ⟨-, -, hreceived, hfocus⟩ := hadded
    rw [set_comm _ _ hmonIdx]
    set moved := MonitorSet.normal ((monitors.set newIdx new').set activeIdx
      { mon with workspaces := mon.workspaces.set mon.activeWorkspaceIdx ws' }) primaryIdx
      (if activate = true then newIdx else activeIdx) with hmoved
    have hset' : Layout.monitorSet { self with monitorSet := moved } = moved := rfl
    refine ⟨fun w hw => ?_, fun hoff => ⟨?_, ?_⟩⟩
    · rw [hcolumns'] at hw
      exact hs.placed_elsewhere hset hk hi hremoved hn hmonIdx hreceived (fun v hv => hv) hset' w hw
    · rw [activeMonitorIdx, hset', hmoved, hoff, activeMonitorIdx, hset]
      rfl
    · have hgetk : (monitors.set newIdx new')[activeIdx]? = some mon := by
        rw [List.getElem?_set_ne (Ne.symm hmonIdx), hk]
      rw [activeIds, hset', activeIds, hset]
      exact ((map_set_eq_iff hgetk).mpr (activeWorkspace_set hi hremoved.id)).trans
        ((map_set_eq_iff hn).mpr (hfocus hoff))

variable {active : Workspace Id}

/-- With a floating window in focus, the move is one of `move_to_output`, which goes to the active
    workspace of the output and takes the focus there. -/
theorem moveColumnToOutput_floating (hactive : new.activeWorkspace = some active)
    (hfloats : ∃ ws ∈ self.focusedWorkspace, ws.isFloatingActive = true)
    (geometry : Output → OutputGeometry) (idx : Option ℕ) (activate : Bool)
    (expected : Option ISize) :
    YieldsFrom geometry nextId (self.moveColumnToOutput new.output idx activate expected)
      fun self' _ => self.Outcome none .smart new newIdx active self' := by
  obtain ⟨ws₀, hws₀, hfloats⟩ := hfloats
  have hactive' : new.workspaces[(none : Option ℕ).getD new.activeWorkspaceIdx]? = some active :=
    hactive
  have hmoved := moveToOutput_outcome hs hset hn hactive' geometry none .smart expected
  unfold moveColumnToOutput
  rw [hset]
  refine lift_bind (hs.findIdx_output hset hn) ?_
  rintro newIdx rfl
  refine lift_bind Ensures.self fun mon hk => ?_
  refine lift_bind Ensures.self fun ws hi => ?_
  have hfocused : self.focusedWorkspace = some ws := by
    rw [focusedWorkspace, hset]
    dsimp only
    rw [hk, bind_some, hi]
  cases some.inj (hfocused.symm.trans hws₀)
  rw [if_pos hfloats]
  exact hmoved

/-- Such a move is the one asked for only where the target is that workspace. -/
theorem Outcome.columnMoved_iff {idx : ℕ} (ht : new.workspaces[idx]? = some target)
    (hactive : new.activeWorkspace = some active)
    (hfloats : ∃ ws ∈ self.focusedWorkspace, ws.isFloatingActive = true) {activate : Bool}
    {self' : Layout Id} (h : self.Outcome none .smart new newIdx active self') :
    self.ColumnMoved new.output target activate self' ↔
      ¬ self.ForgetsTarget new newIdx idx activate := by
  have hcolumn : self.columnToMove = (self.windowToMove none).toList := by
    obtain ⟨ws, hws, hfloating⟩ := hfloats
    rw [columnToMove, mem_def.mp hws]
    exact if_pos hfloating
  have hidx : self.activeMonitorIdx = some activeIdx := by
    rw [activeMonitorIdx, hset]
  have hwfNew : new.WellFormed nextId :=
    hs.monitors new (by rw [hset]; exact mem_of_getElem? hn)
  cases hwindow : self.windowToMove none with
  | none =>
    obtain rfl : self' = self := h.stays fun w hw => by
      rw [hwindow] at hw
      cases hw
    refine iff_of_true ⟨fun w hw => ?_, fun _ => .refl self'⟩ fun hforgets => hforgets.2.1 hwindow
    rw [hcolumn, hwindow] at hw
    exact absurd hw not_mem_nil
  | some w =>
    have hin : w ∈ self.columnToMove := by
      rw [hcolumn, hwindow]
      exact mem_singleton_self w
    -- The window is on the active workspace of the active monitor.
    obtain ⟨mon, ws, hk, hi, hw⟩ : ∃ mon ws, monitors[activeIdx]? = some mon ∧
        mon.workspaces[mon.activeWorkspaceIdx]? = some ws ∧ w ∈ ws.ids := by
      unfold windowToMove at hwindow
      split_ifs at hwindow
      rw [none_or, focusedWindow, focusedWorkspace, hset] at hwindow
      obtain ⟨win, hwin, -⟩ := map_eq_some_iff.mp hwindow
      obtain ⟨ws, hws, -⟩ := bind_eq_some_iff.mp hwin
      obtain ⟨mon, hmon, hws⟩ := bind_eq_some_iff.mp hws
      refine ⟨mon, ws, hmon, hws, activeWindow_mem ?_⟩
      dsimp only at hwindow
      rwa [hmon, bind_some, hws, bind_some] at hwindow
    have hforgets : self.ForgetsTarget new newIdx idx activate ↔
        ¬ (idx = new.activeWorkspaceIdx ∧ (activate = true ∨ activeIdx = newIdx)) := by
      unfold ForgetsTarget
      rw [hidx, hwindow, some_inj]
      exact ⟨fun h => h.2.2, fun h => ⟨hfloats, some_ne_none w, h⟩⟩
    rw [hforgets, not_not]
    constructor
    · rintro ⟨hplaced, hfocus⟩
      refine ⟨?_, ?_⟩
      · have hid := ((h.placed w hwindow).only _ _ (hplaced w hin).there).2
        exact id_inj hwfNew.ids ht hactive hid
      · by_contra hnot
        rw [not_or] at hnot
        have hfollows := h.follows rfl w hwindow fun hmem => by
          obtain ⟨v, hv, hwv⟩ := mem_flatMap.mp hmem
          obtain ⟨j, hj⟩ := mem_iff_getElem?.mp hv
          exact hnot.2 (hs.place_unique hset hk hi hw hn hj hwv).1
        have hsame := (hfocus (by simpa using hnot.1)).monitor
        rw [hfollows, hidx, some_inj] at hsame
        exact hnot.2 hsame.symm
    · rintro ⟨rfl, hfocus⟩
      cases some.inj (hactive.symm.trans ht)
      refine ⟨fun w hw => h.placed w ?_, fun hoff => ?_⟩
      · rw [hcolumn] at hw
        exact mem_toList.mp hw
      · obtain rfl := hfocus.resolve_left (by rw [hoff]; decide)
        cases some.inj (hn.symm.trans hk)
        cases some.inj (ht.symm.trans hi)
        obtain rfl : self' = self := h.stays fun w' hw' => by
          cases some.inj (hwindow.symm.trans hw')
          exact hw
        exact .refl self'

end

/-- **Which moves are honoured**: for every sound layout and every workspace of every output.  A
    move of a window comes to its target, and it changes the focus, where it is not to, if it
    leaves its monitor without windows and names while the last workspace below an empty one above
    the first is active.  A move of a column is honoured, unless it forgets its target. -/
theorem moves_honoured (hs : self.Sound nextId) {newIdx : ℕ} {new : Monitor Id}
    (hn : self.monitorSet.monitors[newIdx]? = some new) {idx : ℕ} {target : Workspace Id}
    (ht : new.workspaces[idx]? = some target) (geometry : Output → OutputGeometry) :
    (∀ (window : Option Id) (activate : ActivateWindow) (expected : Option ISize),
      YieldsFrom geometry nextId
        (self.moveToOutput window new.output (some idx) activate expected) fun self' _ =>
          ((∀ w, self.windowToMove window = some w → self'.PlacedOn new.output target.id w) ∧
              (self.activates window activate = false → self.SameFocus self') ↔
            ¬ (self.activates window activate = false ∧ self.LosesSource window new.output))) ∧
      ∀ (activate : Bool) (expected : Option ISize), YieldsFrom geometry nextId
          (self.moveColumnToOutput new.output (some idx) activate expected) fun self' _ =>
            (self.ColumnMoved new.output target activate self' ↔
              ¬ self.ForgetsTarget new newIdx idx activate) := by
  cases hset : self.monitorSet with
  | noOutputs workspaces =>
    rw [hset] at hn
    cases hn
  | normal monitors primaryIdx activeIdx =>
    rw [hset] at hn
    change monitors[newIdx]? = some new at hn
    refine ⟨fun window activate expected => ?_, fun activate expected => ?_⟩
    · have ht' : new.workspaces[(some idx).getD new.activeWorkspaceIdx]? = some target := ht
      refine (moveToOutput_outcome hs hset hn ht' geometry window activate expected).mono
        fun self' _ h => ?_
      constructor
      · rintro ⟨-, hfocus⟩ ⟨hoff, hloses⟩
        exact (h.focus hoff).mp (hfocus hoff) hloses
      · intro hnot
        exact ⟨h.placed, fun hoff => (h.focus hoff).mpr fun hloses => hnot ⟨hoff, hloses⟩⟩
    · by_cases hfloats : ∃ ws ∈ self.focusedWorkspace, ws.isFloatingActive = true
      · have hwfNew : new.WellFormed nextId :=
          hs.monitors new (by rw [hset]; exact mem_of_getElem? hn)
        have hlt := hwfNew.active
        have hactive : new.activeWorkspace = some new.workspaces[new.activeWorkspaceIdx] :=
          List.getElem?_eq_getElem hlt
        exact (moveColumnToOutput_floating hs hset hn hactive hfloats geometry (some idx) activate
          expected).mono fun self' _ h => h.columnMoved_iff hs hset hn ht hactive hfloats
      · refine (moveColumnToOutput_tiled hs hset hn ht (fun ws hws => ?_) geometry activate
          expected).mono fun self' _ h => iff_of_true h fun hforgets => hfloats hforgets.1
        by_contra hfloating
        exact hfloats ⟨ws, hws, by simpa using hfloating⟩

end Layout

/-! ## A floating window in focus -/

open Monitor (someOutput someGeometry)

/-- Another output. -/
def otherOutput : Output := ⟨1, "DP-2", none, none, none⟩

/-- An empty workspace of an output. -/
def spareOf (output : Output) (id : WorkspaceId) : Workspace ℕ :=
  .new id someGeometry output Options.default

/-- A workspace, and the empty one below it. -/
def monitorOf (output : Output) (ws : Workspace ℕ) (id : WorkspaceId) : Monitor ℕ where
  output := output
  workspaces := [ws, spareOf output id]
  activeWorkspaceIdx := 0
  previousWorkspaceId := none
  workspaceSwitch := none
  overviewOpen := false
  baseOptions := Options.default
  options := Options.default
  layoutConfig := none

/-- The workspace is in focus; the named one of the other output is active there. -/
def twoOutputs (ws : Workspace ℕ) : Layout ℕ :=
  { Layout.withOptions Options.default with
    monitorSet := .normal [monitorOf someOutput ws 1,
      monitorOf otherOutput { spareOf otherOutput 2 with name := some "web" } 3] 0 0 }

/-- A floating window opens. -/
def floatingOpened : Option (Workspace ℕ) :=
  (spareOf someOutput 0).addTile (ScrollingSpace.plainTile 1) .auto .yes (.proportion 1) false true

variable {ws : Workspace ℕ}

theorem monitorOf_wellFormed {output : Output} {id : WorkspaceId} (hid : ws.id < id)
    (hid' : id < 4) : (monitorOf output ws id).WellFormed 4 where
  active := succ_pos 1
  last v hv := by
    cases hv
    rfl
  first habove := by cases habove
  ends habove := by cases habove
  used _ idx v hget _ hlast hactive := by
    change idx + 1 < 2 at hlast
    exact absurd (show idx = 0 by omega) hactive
  ids := by
    change [ws.id, id].Nodup
    simpa using hid.ne
  fresh v hv := by
    rcases mem_pair.mp hv with rfl | rfl
    · exact hid.trans hid'
    · exact hid'

theorem twoOutputs_sound (h : (spareOf someOutput 0).Added [1] ws) :
    (twoOutputs ws).Sound 4 where
  monitors mon hmon := by
    rcases mem_pair.mp hmon with rfl | rfl
    · refine monitorOf_wellFormed ?_ (by decide)
      rw [h.id]
      decide
    · exact monitorOf_wellFormed (by decide) (by decide)
  indices monitors primaryIdx activeIdx hset := by
    cases hset
    exact ⟨succ_pos 1, succ_pos 1⟩
  ids := by
    change [ws.id, 1, 2, 3].Nodup
    rw [h.id]
    decide
  fresh v hv := by
    have hv : v ∈ [ws, spareOf someOutput 1, _, spareOf otherOutput 3] := hv
    simp only [mem_cons, not_mem_nil, or_false] at hv
    rcases hv with rfl | rfl | rfl | rfl
    · rw [h.id]
      decide
    all_goals decide
  spaces v hv := by
    have hv : v ∈ [ws, spareOf someOutput 1, _, spareOf otherOutput 3] := hv
    simp only [mem_cons, not_mem_nil, or_false] at hv
    rcases hv with rfl | rfl | rfl | rfl
    · exact h.inv
    · exact newEmpty_inv ..
    · have hempty : (spareOf otherOutput 2).Inv := newEmpty_inv ..
      exact ⟨hempty.scrolling, hempty.floating, hempty.nodup⟩
    · exact newEmpty_inv ..
  windows := by
    change (ws.ids ++ []).Nodup
    rw [append_nil]
    exact h.inv.nodup
  outputs := by
    change [someOutput, otherOutput].Nodup
    decide

/-- The window that has opened, and what becomes of it. -/
theorem floatingOpened_spec : ∃ ws, floatingOpened = some ws ∧
    (spareOf someOutput 0).Added [1] ws ∧ ws.isFloatingActive = true ∧
    (twoOutputs ws).windowToMove none = some 1 ∧
    (((twoOutputs ws).moveToOutput (some 1) otherOutput (some 1) .no none).run
      someGeometry).run 4 ≠ none ∧
    (((twoOutputs ws).moveColumnToOutput otherOutput (some 1) false none).run
      someGeometry).run 4 ≠ none := by
  obtain ⟨ws, hws⟩ : ∃ ws, floatingOpened = some ws :=
    isSome_iff_exists.mp (by decide +kernel)
  have hruns : floatingOpened.map (fun ws => (ws.isFloatingActive, (twoOutputs ws).windowToMove none,
      ((((twoOutputs ws).moveToOutput (some 1) otherOutput (some 1) .no none).run
        someGeometry).run 4).isSome,
      ((((twoOutputs ws).moveColumnToOutput otherOutput (some 1) false none).run
        someGeometry).run 4).isSome)) = some (true, some 1, true, true) := by
    decide +kernel
  rw [hws, map_some, some_inj, Prod.mk.injEq, Prod.mk.injEq, Prod.mk.injEq] at hruns
  obtain ⟨hfloats, hwindow, hmoved, hcolumn⟩ := hruns
  have hadded := addTile_inv (newEmpty_inv ..) (ScrollingSpace.plainTile 1) .auto
    .yes (.proportion 1) false true (by decide) ws hws
  exact ⟨ws, hws, hadded, hfloats, hwindow, isSome_iff_ne_none.mp hmoved,
    isSome_iff_ne_none.mp hcolumn⟩

/-- The window itself is moved as asked. -/
theorem moves_honoured_floating : ∃ ws self' nextId', floatingOpened = some ws ∧
    (((twoOutputs ws).moveToOutput (some 1) otherOutput (some 1) .no none).run someGeometry).run 4 =
      some (self', nextId') ∧
    self'.PlacedOn otherOutput 3 1 ∧ (twoOutputs ws).SameFocus self' := by
  obtain ⟨ws, hws, hadded, -, -, hruns, -⟩ := floatingOpened_spec
  obtain ⟨⟨self', nextId'⟩, hrun⟩ := ne_none_iff_exists'.mp hruns
  set other := monitorOf otherOutput { spareOf otherOutput 2 with name := some "web" } 3
  have hn : (twoOutputs ws).monitorSet.monitors[1]? = some other := rfl
  have ht : other.workspaces[1]? = some (spareOf otherOutput 3) := rfl
  have hiff := (Layout.moves_honoured (twoOutputs_sound hadded) hn ht someGeometry).1 (some 1) .no
    none _ hrun
  obtain ⟨hplaced, hfocus⟩ := hiff.mpr (by
    rintro ⟨-, w, -, mon, hmon, -, -, -, habove, -⟩
    rcases mem_pair.mp hmon with rfl | rfl <;> cases habove)
  exact ⟨ws, self', nextId', hws, hrun, hplaced 1 rfl, hfocus rfl⟩

/-- **Its column is not**: it is sent to the second workspace of the other output, without the
    focus.  It comes to the active workspace there, and has the focus. -/
theorem moveColumnToOutput_ignores : ∃ ws self' nextId', floatingOpened = some ws ∧
    (((twoOutputs ws).moveColumnToOutput otherOutput (some 1) false none).run someGeometry).run 4 =
      some (self', nextId') ∧
    (twoOutputs ws).columnToMove = [1] ∧ self'.PlacedOn otherOutput 2 1 ∧
    self'.activeMonitorIdx = some 1 ∧
    ¬ (twoOutputs ws).ColumnMoved otherOutput (spareOf otherOutput 3) false self' := by
  obtain ⟨ws, hws, hadded, hfloats, hwindow, -, hruns⟩ := floatingOpened_spec
  obtain ⟨⟨self', nextId'⟩, hrun⟩ := ne_none_iff_exists'.mp hruns
  have hsound := twoOutputs_sound hadded
  have hfocused : ∃ v ∈ (twoOutputs ws).focusedWorkspace, v.isFloatingActive = true :=
    ⟨ws, rfl, hfloats⟩
  set other := monitorOf otherOutput { spareOf otherOutput 2 with name := some "web" } 3
  have hn : [monitorOf someOutput ws 1, other][1]? = some other := rfl
  have houtcome := Layout.moveColumnToOutput_floating hsound rfl hn rfl hfocused someGeometry
    (some 1) false none _ hrun
  have hcolumn : (twoOutputs ws).columnToMove = [1] := by
    change (if ws.isFloatingActive = true then ((twoOutputs ws).windowToMove none).toList else _) = _
    rw [if_pos hfloats, hwindow]
    rfl
  have hplaced := houtcome.placed 1 hwindow
  refine ⟨ws, self', nextId', hws, hrun, hcolumn, hplaced, ?_, fun hmoved => ?_⟩
  · refine houtcome.follows rfl 1 hwindow ?_
    change 1 ∉ []
    exact not_mem_nil
  · have hin : 1 ∈ (twoOutputs ws).columnToMove := by
      rw [hcolumn]
      exact mem_singleton_self 1
    exact absurd (hplaced.only _ _ (hmoved.placed 1 hin).there).2 (by decide)

end Tiri.Layout
