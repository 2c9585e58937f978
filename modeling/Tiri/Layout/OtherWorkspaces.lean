import Tiri.Layout.MonitorMoves
import Tiri.Layout.LayoutWorkspaces

set_option linter.dupNamespace false

/-!
# Workspaces come and go beside the active one

`remove_workspace`, `insert_workspace`, `add_named_workspace` and `ensure_named_workspace` move the
other workspaces along, add empty ones at the ends and clean up.

Results:
* `removeWorkspaceByIdx_undisturbed`, `insertWorkspace_undisturbed`: what one monitor keeps;
* `workspaces_undisturbed`: what the layout keeps, and when it does not;
* `removeWorkspace_disturbs`: the two empty workspaces are made one, and the active one is gone.
-/

namespace Tiri.Layout

open Option List Nat Ensures Vec Workspace Monitor
open Bool hiding and_assoc not_or

variable {Id : Type}

/-- The workspaces with windows or a name, but for the one with this id. -/
def usedExcept (id : WorkspaceId) (workspaces : List (Workspace Id)) : List (Workspace Id) :=
  workspaces.filter fun ws => ws.hasWindowsOrName && ws.id ≠ id

/-- The same workspace is active, and the other used ones are in their order. -/
structure Monitor.Undisturbed (id : WorkspaceId) (mon mon' : Monitor Id) : Prop where
  output : mon'.output = mon.output
  focus : mon'.activeWorkspace.map (·.id) = mon.activeWorkspace.map (·.id)
  order : usedExcept id mon'.workspaces = usedExcept id mon.workspaces

/-- **Undisturbed layouts**: so it is on every monitor, and the same monitor is active. -/
def MonitorSet.Undisturbed (id : WorkspaceId) : MonitorSet Id → MonitorSet Id → Prop
  | .normal monitors _ activeIdx, .normal monitors' _ activeIdx' =>
    activeIdx' = activeIdx ∧ List.Forall₂ (Monitor.Undisturbed id) monitors monitors'
  | .noOutputs workspaces, .noOutputs workspaces' =>
    usedExcept id workspaces' = usedExcept id workspaces
  | _, _ => False

/-- Only the workspace with this id is used, the last one is active, and an empty one is kept above
    the first: without the workspace, the last one is one too many. -/
def Monitor.MergesWithout (self : Monitor Id) (id : WorkspaceId) : Prop :=
  self.emptyAboveFirst = true ∧ self.activeWorkspaceIdx + 1 = self.workspaces.length ∧
    ∀ ws ∈ self.workspaces, ws.id ≠ id → ws.hasWindowsOrName = false

section UsedExcept

variable {id : WorkspaceId} {l l' : List (Workspace Id)}

@[simp] theorem usedExcept_append :
    usedExcept id (l ++ l') = usedExcept id l ++ usedExcept id l' :=
  filter_append ..

theorem usedExcept_of_unused (h : ∀ ws ∈ l, ws.hasWindowsOrName = false) :
    usedExcept id l = [] := by
  refine filter_eq_nil_iff.mpr fun ws hws => ?_
  rw [h ws hws]
  simp

theorem usedExcept_cons_self {ws : Workspace Id} (hid : ws.id = id) :
    usedExcept id (ws :: l) = usedExcept id l :=
  filter_cons_of_neg (by simp [hid])

theorem usedExcept_congr
    (h : l'.filter (·.hasWindowsOrName) = l.filter (·.hasWindowsOrName)) :
    usedExcept id l' = usedExcept id l := by
  have key : ∀ k : List (Workspace Id), usedExcept id k =
      (k.filter (·.hasWindowsOrName)).filter fun ws => decide (ws.id ≠ id) := by
    intro k
    rw [List.filter_filter, usedExcept]
    exact filter_congr fun ws _ => and_comm ..
  rw [key, key, h]

end UsedExcept

/-! ## Clean-up -/

/-- Workspaces that are not used have gone. -/
structure Pruned (old new : List (Workspace Id)) : Prop where
  sublist : new.Sublist old
  used : ∀ ws ∈ old, ws.hasWindowsOrName = true → ws ∈ new

namespace Pruned

variable {l l' l'' r r' : List (Workspace Id)}

theorem refl (l : List (Workspace Id)) : Pruned l l := ⟨.refl l, fun _ h _ => h⟩

theorem trans (h : Pruned l l') (h' : Pruned l' l'') : Pruned l l'' :=
  ⟨h'.sublist.trans h.sublist, fun ws hws hused => h'.used ws (h.used ws hws hused) hused⟩

theorem append (h : Pruned l l') (h' : Pruned r r') : Pruned (l ++ r) (l' ++ r') :=
  ⟨h.sublist.append h'.sublist, fun ws hws hused => (mem_append.mp hws).elim
    (fun hws => mem_append_left _ (h.used ws hws hused))
    fun hws => mem_append_right _ (h'.used ws hws hused)⟩

/-- Workspaces that change, but are not used unless they were. -/
theorem map {f : Workspace Id → Workspace Id}
    (hf : ∀ ws, (f ws).hasWindowsOrName = true → ws.hasWindowsOrName = true) (h : Pruned l l') :
    Pruned (l.map f) (l'.map f) := by
  refine ⟨h.sublist.map f, fun ws' hws' hused => ?_⟩
  obtain ⟨ws, hws, rfl⟩ := mem_map.mp hws'
  exact mem_map_of_mem (h.used ws hws (hf ws hused))

/-- A workspace goes that is not used. -/
theorem erase (l r : List (Workspace Id)) {ws : Workspace Id} (h : ws.hasWindowsOrName = false) :
    Pruned (l ++ ws :: r) (l ++ r) := by
  refine ⟨(List.Sublist.refl l).append (sublist_cons_self ws r), fun w hw hused => ?_⟩
  rcases mem_append.mp hw with hw | hw
  · exact mem_append_left r hw
  · rcases mem_cons.mp hw with rfl | hw
    · exact absurd (h.symm.trans hused) false_ne_true
    · exact mem_append_right l hw

end Pruned

namespace Monitor

theorem Undisturbed.refl (id : WorkspaceId) (mon : Monitor Id) : mon.Undisturbed id mon :=
  ⟨rfl, rfl, rfl⟩

section Trimmed

/-- Workspaces that are not used have gone, but not a spare first one. -/
structure Trimmed (old mon : Monitor Id) : Prop where
  workspaces : Pruned old.workspaces mon.workspaces
  output : mon.output = old.output
  options : mon.options = old.options
  head : old.emptyAboveFirst = true → mon.workspaces.head? = old.workspaces.head?

variable {old mon mon' : Monitor Id}

theorem Trimmed.refl (mon : Monitor Id) : mon.Trimmed mon := ⟨.refl _, rfl, rfl, fun _ => rfl⟩

theorem Trimmed.emptyAboveFirst (h : old.Trimmed mon) :
    mon.emptyAboveFirst = old.emptyAboveFirst := by
  unfold Monitor.emptyAboveFirst
  rw [h.options]

theorem Trimmed.trans (h : old.Trimmed mon) (h' : mon.Trimmed mon') : old.Trimmed mon' where
  workspaces := h.workspaces.trans h'.workspaces
  output := h'.output.trans h.output
  options := h'.options.trans h.options
  head habove := (h'.head (h.emptyAboveFirst.trans habove)).trans (h.head habove)

theorem cleanUpStep_trimmed {idx : ℕ} (hidx : mon.emptyAboveFirst = true → idx ≠ 0) :
    Ensures (mon.cleanUpStep idx) mon.Trimmed := by
  refine Ensures.ite (fun _ => of_some (.refl mon)) fun _ => Ensures.self.bind fun ws hws =>
    Ensures.ite (fun _ => of_pure (.refl mon)) fun hunused => of_pure ?_
  obtain ⟨front, rest, hl, rfl⟩ := Vec.getElem?_eq_some_split.mp hws
  refine ⟨?_, rfl, rfl, fun habove => ?_⟩
  · rw [hl, eraseIdx_append_length]
    exact .erase front rest (by simpa using hunused)
  · have hne := hidx habove
    rw [hl, eraseIdx_append_length]
    cases front with
    | nil => exact absurd rfl hne
    | cons first front => rfl

theorem cleanUpLoop_trimmed {start : ℕ} (hstart : mon.emptyAboveFirst = true → start ≠ 0) (n : ℕ) :
    Ensures (cleanUpLoop start n mon) mon.Trimmed := by
  induction n generalizing mon with
  | zero => exact of_some (.refl mon)
  | succ n ih =>
    refine (cleanUpStep_trimmed fun habove => ?_).bind fun mon₁ h₁ =>
      (ih fun habove => ?_).mono fun mon₂ h₂ => h₁.trans h₂
    · have := hstart habove
      omega
    · exact hstart (h₁.emptyAboveFirst.symm.trans habove)

theorem mergeEnds_trimmed (mon : Monitor Id) : Ensures mon.mergeEnds mon.Trimmed := by
  unfold mergeEnds
  split
  · rename_i first last hws
    refine Ensures.ite (fun _ => Ensures.ite (fun _ => of_none) fun hunused => ?_)
      fun _ => of_some (.refl mon)
    have hlast : last.hasWindowsOrName = false := by
      rw [or_eq_true, not_or] at hunused
      simpa using hunused.2
    refine of_some ⟨?_, rfl, rfl, fun _ => by rw [hws]; rfl⟩
    rw [hws]
    exact .erase [first] [] hlast
  · exact of_some (.refl mon)

theorem cleanUpWorkspaces_trimmed (mon : Monitor Id) :
    Ensures mon.cleanUpWorkspaces mon.Trimmed := by
  refine Ensures.ite (fun _ => of_none) fun _ =>
    (cleanUpLoop_trimmed (fun habove => ?_) _).bind fun mon₁ h₁ =>
      (mergeEnds_trimmed mon₁).mono fun mon₂ h₂ => h₁.trans h₂
  rw [if_pos habove]
  decide

end Trimmed

variable {act : Workspace Id}

theorem filter_used_congr {l l' : List (Workspace Id)}
    (h : l'.filter (fun ws => ws.hasWindowsOrName || ws.id = act.id) =
      l.filter (fun ws => ws.hasWindowsOrName || ws.id = act.id)) :
    l'.filter (·.hasWindowsOrName) = l.filter (·.hasWindowsOrName) := by
  have key : ∀ k : List (Workspace Id), k.filter (·.hasWindowsOrName) =
      (k.filter fun ws => ws.hasWindowsOrName || ws.id = act.id).filter (·.hasWindowsOrName) := by
    intro k
    rw [List.filter_filter]
    exact filter_congr fun ws _ => by cases ws.hasWindowsOrName <;> rfl
  rw [key, key l, h]

/-- **The end of a change**: the switch is over, and the spare workspaces go. -/
theorem stopSwitchAndCleanUp_spec {mon : Monitor Id}
    (hlen : mon.emptyAboveFirst = true → 2 ≤ mon.workspaces.length)
    (hfirst : mon.emptyAboveFirst = true →
      ∀ ws ∈ mon.workspaces.head?, ws.hasWindowsOrName = false)
    (hlast : ∀ ws ∈ mon.workspaces.getLast?, ws.hasWindowsOrName = false)
    (hids : (mon.workspaces.map (·.id)).Nodup) (hact : mon.activeWorkspace = some act) :
    ∃ mon', mon.stopSwitchAndCleanUp = some mon' ∧ mon.Trimmed mon' ∧
      mon'.workspaces.filter (·.hasWindowsOrName) = mon.workspaces.filter (·.hasWindowsOrName) ∧
      (mon'.activeWorkspace.map (·.id) = some act.id ↔ ¬ mon.MergesActive) := by
  have hmem : act ∈ mon.workspaces := mem_of_getElem? hact
  by_cases hone : 2 ≤ mon.workspaces.length
  · obtain ⟨mon', hrun, hmerges, hkeeps⟩ := cleanUpWorkspaces_of_ends
      { mon with workspaceSwitch := none } rfl hone hfirst hlast hids hact
    have hcut := cleanUpWorkspaces_trimmed _ mon' hrun
    refine ⟨mon', hrun, ⟨hcut.workspaces, hcut.output, hcut.options, hcut.head⟩, ?_, ?_⟩
    · by_cases hm : mon.MergesActive
      · have hnone : ∀ l : List (Workspace Id), l ⊆ mon.workspaces →
            l.filter (·.hasWindowsOrName) = [] := fun l hl =>
          filter_eq_nil_iff.mpr fun ws hws => by rw [hm.2.2 ws (hl hws)]; exact false_ne_true
        rw [hnone _ hcut.workspaces.sublist.subset, hnone _ (List.Subset.refl _)]
      · exact filter_used_congr (hkeeps hm).2
    · refine ⟨fun hsame hm => ?_, fun hm => by rw [(hkeeps hm).1, map_some]⟩
      -- The first workspace is active now, and the last one was.
      rw [hmerges hm, List.head?_eq_getElem?] at hsame
      obtain ⟨first, hget, hid⟩ := map_eq_some_iff.mp hsame
      have heq : 0 = mon.activeWorkspaceIdx := id_inj hids hget hact hid
      have hlast := hm.2.1
      omega
  · -- A single workspace stays.
    have hpos : 0 < mon.workspaces.length := length_pos_of_mem hmem
    have hlen1 : mon.workspaces.length = 1 := by omega
    have hnot : mon.emptyAboveFirst = false := by
      by_contra habove
      have := hlen (by simpa using habove)
      omega
    obtain ⟨ws, hws⟩ := length_eq_one_iff.mp hlen1
    refine ⟨{ mon with workspaceSwitch := none }, ?_, ⟨.refl _, rfl, rfl, fun _ => rfl⟩, rfl, ?_⟩
    · unfold stopSwitchAndCleanUp cleanUpWorkspaces
      have habove : ({ mon with workspaceSwitch := none } : Monitor Id).emptyAboveFirst = false :=
        hnot
      simp only [isSome_none, false_eq_true, if_false, habove, hlen1]
      change mergeEnds _ = _
      unfold mergeEnds
      simp only [hws]
    · refine iff_of_true (congrArg (Option.map (·.id)) hact) fun hm => ?_
      exact false_ne_true (hnot.symm.trans hm.1)

/-! ## Workspaces in and out -/

section InAndOut

variable {self : Monitor Id} {nextId : WorkspaceId} {idx : ℕ} {ws : Workspace Id}

variable (geometry : Output → OutputGeometry)

theorem setOutput_none (ws : Workspace Id) : ∃ ws', ws.setOutput geometry none = some ws' := by
  unfold Workspace.setOutput
  split_ifs <;> exact ⟨_, rfl⟩

/-- What a monitor is like before the clean-up: new empty workspaces at its ends, `front` and `rest`
    of its old ones, and `mid` in between. -/
structure Assembled (old mon : Monitor Id) (top front mid rest bottom : List (Workspace Id)) :
    Prop where
  workspaces : mon.workspaces = top ++ front ++ mid ++ (rest ++ bottom)
  output : mon.output = old.output
  options : mon.options = old.options
  unused : ∀ ws ∈ top ++ bottom, ws.hasWindowsOrName = false
  head : front ≠ [] → old.workspaces.head? = front.head?
  getLast : rest ≠ [] → old.workspaces.getLast? = rest.getLast?
  first : old.emptyAboveFirst = true → top ++ front ≠ []
  last : rest ++ bottom ≠ []
  ids : (mon.workspaces.map (·.id)).Nodup
  active : mon.activeWorkspace = old.activeWorkspace

section Assembled

variable {mon : Monitor Id} {top front mid rest bottom : List (Workspace Id)}

section

variable (h : self.Assembled mon top front mid rest bottom)
include h

theorem Assembled.above : mon.emptyAboveFirst = self.emptyAboveFirst := by
  unfold emptyAboveFirst
  rw [h.options]

section

variable (hwf : self.WellFormed nextId)
include hwf

theorem Assembled.head_unused (habove : self.emptyAboveFirst = true) :
    ∀ ws ∈ mon.workspaces.head?, ws.hasWindowsOrName = false := by
  intro ws hws
  rw [h.workspaces, append_assoc, List.head?_append_of_ne_nil _ (h.first habove)] at hws
  cases htop : top with
  | nil =>
    rw [htop, nil_append] at hws
    have hne : front ≠ [] := fun hnil => by simp [hnil] at hws
    exact hwf.first habove ws ((h.head hne).symm ▸ hws)
  | cons t top' =>
    rw [htop] at hws
    cases hws
    exact h.unused _ (by simp [htop])

theorem Assembled.last_unused : ∀ ws ∈ mon.workspaces.getLast?, ws.hasWindowsOrName = false := by
  intro ws hws
  rw [h.workspaces, List.getLast?_append_of_ne_nil _ h.last] at hws
  by_cases hnil : bottom = []
  · rw [hnil, append_nil] at hws
    have hne : rest ≠ [] := fun hrest => h.last (by rw [hrest, hnil, append_nil])
    exact hwf.last ws ((h.getLast hne).symm ▸ hws)
  · rw [List.getLast?_append_of_ne_nil _ hnil] at hws
    exact h.unused ws (mem_append_right _ (mem_of_getLast? hws))

/-- Then the clean-up disturbs nothing, unless the active workspace is one too many. -/
theorem Assembled.stop {id : WorkspaceId}
    (hused : usedExcept id mon.workspaces = usedExcept id self.workspaces) :
    ∃ self', mon.stopSwitchAndCleanUp = some self' ∧
      (self.Undisturbed id self' ↔ ¬ mon.MergesActive) := by
  obtain ⟨act, hact⟩ : ∃ act, self.activeWorkspace = some act :=
    ⟨_, List.getElem?_eq_getElem hwf.active⟩
  have hlen : mon.emptyAboveFirst = true → 2 ≤ mon.workspaces.length := by
    intro habove
    have hfirst := length_pos_iff.mpr (h.first (h.above ▸ habove))
    have hlast := length_pos_iff.mpr h.last
    rw [h.workspaces, length_append, length_append]
    omega
  obtain ⟨self', hrun, hcut, horder, hfocus⟩ := stopSwitchAndCleanUp_spec hlen
    (fun habove => h.head_unused hwf (h.above ▸ habove)) (h.last_unused hwf) h.ids
    (h.active.trans hact)
  refine ⟨self', hrun, ?_⟩
  rw [← hfocus]
  constructor
  · intro hkept
    rw [hkept.focus, hact, map_some]
  · intro hsame
    exact ⟨hcut.output.trans h.output, by rw [hsame, hact, map_some],
      (usedExcept_congr horder).trans hused⟩

end

end

end Assembled

/-- **Removing a workspace that is not active** disturbs nothing, unless the active one is one too
    many without it. -/
theorem removeWorkspaceByIdx_undisturbed (hwf : self.WellFormed nextId)
    (hget : self.workspaces[idx]? = some ws) (hne : idx ≠ self.activeWorkspaceIdx) :
    ∃ ws' self' nextId', ((self.removeWorkspaceByIdx idx).run geometry).run nextId =
        some ((ws', self'), nextId') ∧
      (self.Undisturbed ws.id self' ↔ ¬ self.MergesWithout ws.id) := by
  obtain ⟨front, rest, hws, rfl⟩ := Vec.getElem?_eq_some_split.mp hget
  have hactive := hwf.active
  have hlen : self.workspaces.length = front.length + rest.length + 1 := by
    rw [hws, length_append, length_cons]
    omega
  obtain ⟨self₁, bottom, n₁, hrun₁, hbottom, hws₁, hactive₁, hoptions₁, houtput₁⟩ :=
    bottomIf_spec self geometry nextId hactive (front.length + 1 = self.workspaces.length)
  obtain ⟨self₂, top, n₂, hrun₂, htop, hws₂, hactive₂, hoptions₂, houtput₂⟩ :=
    topIf_spec self₁ geometry n₁ (front.length = 0)
  have habove : self₁.emptyAboveFirst = self.emptyAboveFirst := by
    unfold emptyAboveFirst
    rw [hoptions₁]
  have hbottomLen : bottom.length = if rest = [] then 1 else 0 := by
    rw [hbottom.length, hlen]
    refine if_congr ?_ rfl rfl
    rw [decide_eq_true_iff, ← length_eq_zero_iff]
    omega
  have htopLen : top.length = if self.emptyAboveFirst = true ∧ front = [] then 1 else 0 := by
    rw [htop.length, habove]
    simp only [decide_eq_true_iff, length_eq_zero_iff]
  obtain ⟨ws', hoff⟩ := setOutput_none geometry ws
  have hremove : Vec.removeAt self₂.workspaces (front.length + top.length) =
      some (ws, top ++ (front ++ rest) ++ bottom) := by
    refine removeAt_eq_some.mpr ⟨top ++ front, rest ++ bottom, ?_, ?_, ?_⟩
    · rw [hws₂, hws₁, hws]
      simp
    · simp [add_comm]
    · simp
  -- Before the clean-up.
  set m : Monitor Id := { self₂ with
    workspaces := top ++ (front ++ rest) ++ bottom
    activeWorkspaceIdx :=
      if front.length + top.length ≤ self₂.activeWorkspaceIdx ∧ 0 < self₂.activeWorkspaceIdx then
        self₂.activeWorkspaceIdx - 1
      else self₂.activeWorkspaceIdx } with hm
  have hmOptions : m.emptyAboveFirst = self.emptyAboveFirst := by
    unfold emptyAboveFirst
    rw [hm, hoptions₂, hoptions₁]
  obtain ⟨act, hact⟩ : ∃ act, self.activeWorkspace = some act :=
    ⟨_, List.getElem?_eq_getElem hactive⟩
  have hmIdx : m.activeWorkspaceIdx = top.length +
      if front.length < self.activeWorkspaceIdx then self.activeWorkspaceIdx - 1
      else self.activeWorkspaceIdx := by
    rw [hm]
    dsimp only
    split_ifs <;> omega
  have hmAct : m.activeWorkspace = some act := by
    rw [← hact]
    unfold activeWorkspace
    rw [hmIdx, hws, show m.workspaces = top ++ ((front ++ rest) ++ bottom) from
      append_assoc .., List.getElem?_append_right (Nat.le_add_right _ _),
      Nat.add_sub_cancel_left]
    split_ifs with hlt
    · obtain ⟨k, hk⟩ : ∃ k, self.activeWorkspaceIdx = front.length + 1 + k :=
        ⟨self.activeWorkspaceIdx - front.length - 1, by omega⟩
      rw [hk, List.getElem?_append_left (by rw [length_append]; omega),
        List.getElem?_append_right (by omega), List.getElem?_append_right (by omega),
        show front.length + 1 + k - 1 - front.length = k by omega,
        show front.length + 1 + k - front.length = k + 1 by omega, List.getElem?_cons_succ]
    · rw [append_assoc, List.getElem?_append_left (by omega), List.getElem?_append_left (by omega)]
  have hsub : (front ++ rest).Sublist self.workspaces := by
    rw [hws]
    exact (List.Sublist.refl _).append (sublist_cons_self _ _)
  have hids : (m.workspaces.map (·.id)).Nodup :=
    nodup_spares hbottom htop (hwf.ids.sublist (hsub.map _))
      fun ws hin => hwf.fresh ws (hsub.subset hin)
  have hassembled : self.Assembled m top front [] rest bottom := by
    refine ⟨by rw [hm]; simp, houtput₂.trans houtput₁, hoptions₂.trans hoptions₁, ?_, ?_, ?_, ?_, ?_,
      hids, hmAct.trans hact.symm⟩
    · intro ws hin
      exact (mem_append.mp hin).elim (htop.unused ws) (hbottom.unused ws)
    · intro hnil
      rw [hws, List.head?_append_of_ne_nil _ hnil]
    · intro hnil
      rw [hws, List.getLast?_append_of_ne_nil _ (cons_ne_nil _ _),
        List.getLast?_cons_of_ne_nil hnil]
    · intro habove hnil
      rw [append_eq_nil_iff] at hnil
      rw [hnil.1, if_pos ⟨habove, hnil.2⟩] at htopLen
      cases htopLen
    · intro hnil
      rw [append_eq_nil_iff] at hnil
      rw [hnil.2, if_pos hnil.1] at hbottomLen
      cases hbottomLen
  have hused : usedExcept ws.id m.workspaces = usedExcept ws.id self.workspaces := by
    rw [hassembled.workspaces, hws]
    simp [usedExcept_of_unused htop.unused, usedExcept_of_unused hbottom.unused,
      usedExcept_cons_self]
  obtain ⟨self', hstop, hiff⟩ := hassembled.stop hwf hused
  refine ⟨ws', self', n₂, ?_, hiff.trans (not_congr ?_)⟩
  · rw [← htop.shiftedIdx_eq] at hremove
    rw [← htop.shiftedIdx_eq] at hm
    refine run_read_bind.trans ((run_bind hrun₁).trans ((run_bind hrun₂).trans ?_))
    refine (run_lift_bind hremove).trans ?_
    refine (run_lift_bind hoff).trans ?_
    rw [hm] at hstop
    exact run_lift_bind hstop
  · have hmLen : m.workspaces.length = top.length + front.length + rest.length + bottom.length := by
      rw [hm]
      simp [add_assoc]
    unfold MergesActive MergesWithout
    rw [hmOptions, hmIdx, hmLen, hlen]
    refine and_congr_right fun _ => and_congr ?_ ⟨fun hall w hw hid => ?_, fun hall w hw => ?_⟩
    · have hrest : rest = [] ↔ rest.length = 0 := length_eq_zero_iff.symm
      rw [hbottomLen]
      simp only [hrest]
      split_ifs <;> omega
    · refine hall w ?_
      rw [hws] at hw
      rcases mem_append.mp hw with hw | hw
      · exact mem_append_left _ (mem_append_right _ (mem_append_left _ hw))
      · rcases mem_cons.mp hw with rfl | hw
        · exact absurd rfl hid
        · exact mem_append_left _ (mem_append_right _ (mem_append_right _ hw))
    · rcases mem_append.mp hw with hw | hw
      · rcases mem_append.mp hw with hw | hw
        · exact htop.unused w hw
        · refine hall w (hsub.subset hw) fun hid => ?_
          -- It is another one: its id is not in `front ++ rest`.
          have hnodup := hwf.ids
          rw [hws, map_append, map_cons] at hnodup
          have hnot := (nodup_middle.mp hnodup)
          rw [nodup_cons, ← map_append] at hnot
          exact hnot.1 (hid ▸ mem_map_of_mem hw)
      · exact hbottom.unused w hw

/-- Bringing a workspace to an output changes neither its id nor whether it is used. -/
theorem adoptWorkspace_frame (output : Output) (options : Options) {ws ws' : Workspace Id}
    (hinv : ws.Inv) {n n' : WorkspaceId}
    (hrun : ((adoptWorkspace output options ws).run geometry).run n = some (ws', n')) :
    n' = n ∧ ws'.id = ws.id ∧ ws'.hasWindowsOrName = ws.hasWindowsOrName := by
  have hyields : YieldsFrom geometry n (adoptWorkspace output options ws) fun ws' n' =>
      n' = n ∧ ws'.id = ws.id ∧ ws'.hasWindowsOrName = ws.hasWindowsOrName := by
    refine YieldsFrom.read_bind (YieldsFrom.lift_bind
      (setOutput_rehomed geometry (some output) hinv) fun ws₁ h₁ => ?_)
    refine (YieldsFrom.lift (updateConfig_lays options ws₁ h₁.inv)).mono ?_
    rintro ws' n' ⟨hn, -, hlays⟩
    refine ⟨hn, hlays.id.trans h₁.id, hlays.frame.hasWindowsOrName.trans ?_⟩
    exact hasWindowsOrName_congr h₁.ids h₁.name
  exact hyields.elim hrun

/-- **Inserting a workspace without activating it** disturbs nothing, unless no workspace is used,
    and the last one is active. -/
theorem insertAdopted_undisturbed {ws' : Workspace Id} (hwf : self.WellFormed nextId)
    (hidx : idx ≤ self.workspaces.length) (hlt : ws.id < nextId)
    (hnew : ∀ w ∈ self.workspaces, w.id ≠ ws.id) (hid : ws'.id = ws.id)
    (hadopt : ((adoptWorkspace self.output self.options ws).run geometry).run nextId =
      some (ws', nextId)) :
    ∃ self' nextId', ((self.insertWorkspace ws idx false).run geometry).run nextId =
        some (self', nextId') ∧
      (self.Undisturbed ws.id self' ↔ ¬ (self.MergesActive ∧ ws'.hasWindowsOrName = false)) := by
  have hactive := hwf.active
  have hclamped : (if idx = self.workspaces.length then idx - 1 else idx) <
      self.workspaces.length := by
    split_ifs <;> omega
  obtain ⟨front, r, hfront⟩ : ∃ front r, front.length =
        (if idx = self.workspaces.length then idx - 1 else idx) ∧
      self.workspaces = front ++ r ∧ r ≠ [] := by
    refine ⟨self.workspaces.take (if idx = self.workspaces.length then idx - 1 else idx),
      self.workspaces.drop (if idx = self.workspaces.length then idx - 1 else idx), ?_, ?_, ?_⟩
    · exact length_take_of_le hclamped.le
    · exact (take_append_drop ..).symm
    · exact fun hnil => absurd (drop_eq_nil_iff.mp hnil) (not_le.mpr hclamped)
  obtain ⟨hlenFront, hws, hrest⟩ := hfront
  have hlen : self.workspaces.length = front.length + r.length := by
    rw [hws, length_append]
  obtain ⟨self₂, top, n₂, hrun₂, htop, hws₂, hactive₂, hoptions₂, houtput₂⟩ :=
    topIf_spec self geometry nextId (front.length = 0)
  have htopLen : top.length = if self.emptyAboveFirst = true ∧ front = [] then 1 else 0 := by
    rw [htop.length]
    simp only [decide_eq_true_iff, length_eq_zero_iff]
  have hinsert : Vec.insertAt self₂.workspaces (front.length + top.length) ws' =
      some (top ++ front ++ ws' :: r) := by
    refine insertAt_eq_some.mpr ⟨top ++ front, r, ?_, ?_, rfl⟩
    · rw [hws₂, hws, append_assoc]
    · rw [length_append, add_comm]
  -- Before the clean-up.
  set m : Monitor Id := { self₂ with
    workspaces := top ++ front ++ ws' :: r
    activeWorkspaceIdx :=
      if front.length + top.length ≤ self₂.activeWorkspaceIdx then self₂.activeWorkspaceIdx + 1
      else self₂.activeWorkspaceIdx } with hm
  have hmIdx : m.activeWorkspaceIdx = top.length +
      if front.length ≤ self.activeWorkspaceIdx then self.activeWorkspaceIdx + 1
      else self.activeWorkspaceIdx := by
    rw [hm]
    dsimp only
    split_ifs <;> omega
  have hmAct : m.activeWorkspace = self.activeWorkspace := by
    unfold activeWorkspace
    rw [hmIdx, hws, show m.workspaces = top ++ (front ++ ws' :: r) from append_assoc ..,
      List.getElem?_append_right (Nat.le_add_right _ _), Nat.add_sub_cancel_left]
    split_ifs with hle
    · obtain ⟨k, hk⟩ : ∃ k, self.activeWorkspaceIdx = front.length + k :=
        ⟨self.activeWorkspaceIdx - front.length, by omega⟩
      rw [hk, List.getElem?_append_right (by omega), List.getElem?_append_right (by omega),
        show front.length + k + 1 - front.length = k + 1 by omega,
        show front.length + k - front.length = k by omega, List.getElem?_cons_succ]
    · rw [List.getElem?_append_left (by omega), List.getElem?_append_left (by omega)]
  have hperm : (front ++ ws' :: r).Perm (ws' :: self.workspaces) := by
    rw [hws]
    exact perm_middle
  have hids : (m.workspaces.map (·.id)).Nodup := by
    have hmid : ((front ++ ws' :: r).map (·.id)).Nodup := by
      refine (hperm.map _).nodup_iff.mpr (nodup_cons.mpr ⟨fun hin => ?_, hwf.ids⟩)
      obtain ⟨w, hw, heq⟩ := mem_map.mp hin
      exact hnew w hw (heq.trans hid)
    have hnodup := nodup_spares (spare_nil nextId) htop hmid fun w hw => by
      rcases mem_cons.mp (hperm.mem_iff.mp hw) with rfl | hw
      · exact hid ▸ hlt
      · exact hwf.fresh w hw
    rw [append_nil, ← append_assoc] at hnodup
    exact hnodup
  have hassembled : self.Assembled m top front [ws'] r [] := by
    refine ⟨by rw [hm]; simp, houtput₂, hoptions₂, ?_, ?_, ?_, ?_, ?_, hids, hmAct⟩
    · intro w hw
      rw [append_nil] at hw
      exact htop.unused w hw
    · intro hnil
      rw [hws, List.head?_append_of_ne_nil _ hnil]
    · intro _
      rw [hws, List.getLast?_append_of_ne_nil _ hrest]
    · intro habove hnil
      rw [append_eq_nil_iff] at hnil
      rw [hnil.1, if_pos ⟨habove, hnil.2⟩] at htopLen
      cases htopLen
    · rwa [append_nil]
  have hused : usedExcept ws.id m.workspaces = usedExcept ws.id self.workspaces := by
    rw [hassembled.workspaces, hws]
    simp [usedExcept_of_unused htop.unused, usedExcept_cons_self hid]
  obtain ⟨self', hstop, hiff⟩ := hassembled.stop hwf hused
  refine ⟨self', n₂, ?_, hiff.trans (not_congr ?_)⟩
  · rw [← htop.shiftedIdx_eq] at hinsert hm
    rw [hlenFront] at hinsert hm hrun₂
    refine (run_bind hadopt).trans ((run_bind hrun₂).trans ((run_lift_bind hinsert).trans ?_))
    rw [hm] at hstop
    exact run_lift hstop
  · have hmLen : m.workspaces.length = top.length + front.length + (r.length + 1) := by
      rw [show m.workspaces = (top ++ front) ++ ws' :: r from rfl, length_append,
        length_append, length_cons]
    have hall : (∀ w ∈ m.workspaces, w.hasWindowsOrName = false) ↔
        (∀ w ∈ self.workspaces, w.hasWindowsOrName = false) ∧ ws'.hasWindowsOrName = false := by
      rw [show m.workspaces = top ++ (front ++ ws' :: r) from append_assoc ..]
      constructor
      · refine fun h => ⟨fun w hw => ?_, ?_⟩
        · exact h w (mem_append_right _ (hperm.mem_iff.mpr (mem_cons_of_mem _ hw)))
        · exact h ws' (mem_append_right _ (hperm.mem_iff.mpr mem_cons_self))
      · rintro ⟨hold, hinserted⟩ w hw
        rcases mem_append.mp hw with hw | hw
        · exact htop.unused w hw
        · rcases mem_cons.mp (hperm.mem_iff.mp hw) with rfl | hw
          · exact hinserted
          · exact hold w hw
    unfold MergesActive
    rw [hassembled.above, hmIdx, hmLen, hlen, hall, and_assoc, and_assoc]
    refine and_congr_right fun _ => and_congr_left fun _ => ?_
    split_ifs <;> omega

end InAndOut

end Monitor

/-! ## The layout -/

/-- **Well-formed layouts**: so are the monitors, and no two workspaces share an id. -/
structure Layout.WellFormed (layout : Layout Id) (nextId : WorkspaceId) : Prop where
  monitors : ∀ mon ∈ layout.monitorSet.monitors, mon.WellFormed nextId
  indices : ∀ monitors primaryIdx activeIdx,
    layout.monitorSet = .normal monitors primaryIdx activeIdx →
      primaryIdx < monitors.length ∧ activeIdx < monitors.length
  ids : (layout.workspaces.map (·.id)).Nodup
  fresh : ∀ ws ∈ layout.workspaces, ws.id < nextId

namespace Layout

variable {self : Layout Id} {nextId : WorkspaceId}

theorem undisturbed_refl (id : WorkspaceId) (set : MonitorSet Id) :
    set.Undisturbed id set := by
  cases set with
  | normal monitors primaryIdx activeIdx =>
    exact ⟨rfl, List.forall₂_same.mpr fun mon _ => Monitor.Undisturbed.refl id mon⟩
  | noOutputs workspaces => exact rfl

variable {mon : Monitor Id} {reference : WorkspaceReference} {idx : ℕ}

variable {monitors : List (Monitor Id)} {mon' : Monitor Id}

/-- One monitor changes. -/
theorem undisturbed_set {id : WorkspaceId} {monIdx : ℕ} (hget : monitors[monIdx]? = some mon)
    (primaryIdx activeIdx : ℕ) :
    (MonitorSet.normal monitors primaryIdx activeIdx).Undisturbed id
        (.normal (monitors.set monIdx mon') primaryIdx activeIdx) ↔
      mon.Undisturbed id mon' := by
  obtain ⟨front, rest, rfl, rfl⟩ := Vec.getElem?_eq_some_split.mp hget
  have key : List.Forall₂ (Monitor.Undisturbed id) (front ++ mon :: rest)
      (front ++ mon' :: rest) ↔ mon.Undisturbed id mon' := by
    clear hget
    induction front with
    | nil =>
      rw [nil_append, nil_append, List.forall₂_cons]
      exact and_iff_left (List.forall₂_same.mpr fun mon _ => Monitor.Undisturbed.refl id mon)
    | cons mon₀ front ih =>
      rw [cons_append, cons_append, List.forall₂_cons, ih]
      exact and_iff_right (Monitor.Undisturbed.refl id mon₀)
  rw [set_append_length]
  exact (and_iff_right rfl).trans key

/-- A monitor of a layout is found with its workspaces. -/
theorem WellFormed.find {primaryIdx activeIdx monIdx wsIdx : ℕ} (hwf : self.WellFormed nextId)
    (hset : self.monitorSet = .normal monitors primaryIdx activeIdx)
    (hfind : MonitorSet.findMonitorWorkspaceByRef monitors activeIdx reference =
      some (monIdx, wsIdx)) :
    ∃ mon ws, monitors[monIdx]? = some mon ∧ mon.workspaces[wsIdx]? = some ws ∧
      mon.WellFormed nextId := by
  have hmon : ∀ mon ∈ monitors, mon.WellFormed nextId := by
    have hall := hwf.monitors
    rwa [hset] at hall
  have hposition : ∀ p, MonitorSet.findMonitorWorkspaceByRef.findPosition monitors p =
      some (monIdx, wsIdx) → ∃ mon ws, monitors[monIdx]? = some mon ∧
        mon.workspaces[wsIdx]? = some ws ∧ mon.WellFormed nextId := by
    intro p hp
    obtain ⟨i, -, hp⟩ := bind_eq_some_iff.mp hp
    obtain ⟨mon, hget, hp⟩ := bind_eq_some_iff.mp hp
    obtain ⟨j, hj, hp⟩ := bind_eq_some_iff.mp hp
    cases hp
    exact ⟨mon, _, hget, List.getElem?_eq_getElem (position_lt hj), hmon mon (mem_of_getElem? hget)⟩
  cases reference with
  | index index =>
    obtain ⟨mon, hget, hp⟩ := bind_eq_some_iff.mp hfind
    cases hp
    have hwfMon := hmon mon (mem_of_getElem? hget)
    have hactive := hwfMon.active
    exact ⟨mon, _, hget, List.getElem?_eq_getElem (by omega), hwfMon⟩
  | name | id => exact hposition _ hfind

/-! ## Removing -/

/-- What `remove_workspace` is to remove: the workspace, with its monitor, if there are outputs, and
    its index. -/
def toRemove (self : Layout Id) (reference : WorkspaceReference) :
    Option (Option (Monitor Id) × ℕ × Workspace Id) :=
  match self.monitorSet with
  | .normal monitors _ activeIdx => do
    let (monIdx, wsIdx) ← MonitorSet.findMonitorWorkspaceByRef monitors activeIdx reference
    let mon ← monitors[monIdx]?
    let ws ← mon.workspaces[wsIdx]?
    return (some mon, wsIdx, ws)
  | .noOutputs workspaces => do
    let idx ← removalIdxNoOutputs workspaces reference
    let ws ← workspaces[idx]?
    return (none, idx, ws)

variable {workspaces : List (Workspace Id)}

theorem removalIdxNoOutputs_lt (h : removalIdxNoOutputs workspaces reference = some idx) :
    idx < workspaces.length := by
  cases reference with
  | index index =>
    obtain ⟨hlt, rfl⟩ : index - 1 < workspaces.length ∧ index - 1 = idx := by
      simpa [removalIdxNoOutputs] using h
    exact hlt
  | name | id => exact position_lt h

variable (geometry : Output → OutputGeometry)

/-- `remove_workspace` is refused. -/
theorem removeWorkspace_refused (hwf : self.WellFormed nextId)
    (h : ∀ mon idx ws, self.toRemove reference = some (mon, idx, ws) → ws.hasWindows = true) :
    ((self.removeWorkspace reference).run geometry).run nextId = some (self, nextId) := by
  unfold removeWorkspace
  unfold toRemove at h
  cases hset : self.monitorSet with
  | normal monitors primaryIdx activeIdx =>
    rw [hset] at h
    dsimp only at h ⊢
    cases hfind : MonitorSet.findMonitorWorkspaceByRef monitors activeIdx reference with
    | none => rfl
    | some found =>
      obtain ⟨monIdx, wsIdx⟩ := found
      obtain ⟨mon, ws, hmon, hws, -⟩ := hwf.find hset hfind
      have hwindows : ws.hasWindows = true := h (some mon) wsIdx ws (by simp [hfind, hmon, hws])
      rw [run_lift_bind hmon, run_lift_bind hws, if_pos hwindows]
      rfl
  | noOutputs workspaces =>
    rw [hset] at h
    dsimp only at h ⊢
    cases hidx : removalIdxNoOutputs workspaces reference with
    | none => rfl
    | some idx =>
      have hlt := removalIdxNoOutputs_lt hidx
      have hws := List.getElem?_eq_getElem hlt
      have hwindows := h none idx workspaces[idx] (by simp [hidx, hws])
      rw [run_lift_bind hws, if_pos hwindows]
      rfl

variable {ws : Workspace Id}

/-- `remove_workspace`, of a workspace that is not active on its monitor. -/
theorem removeWorkspace_undisturbed (hwf : self.WellFormed nextId) {mon : Option (Monitor Id)}
    (hfound : self.toRemove reference = some (mon, idx, ws)) (hwindows : ws.hasWindows = false)
    (hne : ∀ m ∈ mon, idx ≠ m.activeWorkspaceIdx) :
    ∃ self' nextId', ((self.removeWorkspace reference).run geometry).run nextId =
        some (self', nextId') ∧
      (self.monitorSet.Undisturbed ws.id self'.monitorSet ↔ ∀ m ∈ mon, ¬ m.MergesWithout ws.id) := by
  unfold removeWorkspace
  unfold toRemove at hfound
  cases hset : self.monitorSet with
  | normal monitors primaryIdx activeIdx =>
    rw [hset] at hfound
    obtain ⟨found, hfind, hfound⟩ := bind_eq_some_iff.mp hfound
    obtain ⟨monIdx, wsIdx⟩ := found
    obtain ⟨mon₀, ws₀, hmon, hws, hwfMon⟩ := hwf.find hset hfind
    dsimp only at hfound
    rw [hmon, bind_eq_bind, bind_some, hws] at hfound
    cases hfound
    obtain ⟨ws', mon', nextId', hrun, hiff⟩ :=
      removeWorkspaceByIdx_undisturbed geometry hwfMon hws (hne mon₀ rfl)
    refine ⟨{ self with monitorSet := .normal (monitors.set monIdx mon') primaryIdx activeIdx },
      nextId', ?_, ?_⟩
    · dsimp only
      rw [hfind]
      rw [run_lift_bind hmon, run_lift_bind hws, if_neg (by rw [hwindows]; exact false_ne_true)]
      exact (run_bind hrun).trans rfl
    · rw [undisturbed_set hmon, hiff]
      simp
  | noOutputs workspaces =>
    rw [hset] at hfound
    obtain ⟨_, hidx, hfound⟩ := bind_eq_some_iff.mp hfound
    obtain ⟨ws₀, hws, hfound⟩ := bind_eq_some_iff.mp hfound
    cases hfound
    refine ⟨{ self with monitorSet := .noOutputs (workspaces.eraseIdx idx) }, nextId, ?_, ?_⟩
    · dsimp only
      rw [hidx]
      rw [run_lift_bind hws, if_neg (by rw [hwindows]; exact false_ne_true)]
      rfl
    · refine iff_of_true ?_ (by simp)
      obtain ⟨front, rest, rfl, rfl⟩ := Vec.getElem?_eq_some_split.mp hws
      change usedExcept _ _ = usedExcept _ _
      rw [eraseIdx_append_length]
      simp [usedExcept_cons_self]

/-! ## Inserting -/

/-- A new workspace with a name comes on a monitor. -/
theorem insertNew_undisturbed (hwf : mon.WellFormed nextId) (hidx : idx ≤ mon.workspaces.length)
    (config : WorkspaceConfig) (options : Options) :
    ∃ mon' nextId', ((mon.insertWorkspace
        (Workspace.newWithConfig nextId geometry mon.output (some config) options) idx false).run
          geometry).run (nextId + 1) = some (mon', nextId') ∧
      mon.Undisturbed nextId mon' := by
  have hwf' : mon.WellFormed (nextId + 1) := { hwf with
    fresh := fun ws hws => (hwf.fresh ws hws).trans (lt_succ_self nextId) }
  obtain ⟨ws', hadopt⟩ : ∃ ws', ((adoptWorkspace mon.output mon.options
      (Workspace.newWithConfig nextId geometry mon.output (some config) options :
        Workspace Id)).run geometry).run (nextId + 1) = some (ws', nextId + 1) := by
    refine ⟨_, run_read_bind.trans ((run_lift_bind (if_pos rfl)).trans (run_lift rfl))⟩
  obtain ⟨-, hid, hused⟩ := adoptWorkspace_frame geometry mon.output mon.options
    (newEmpty_inv ..) hadopt
  obtain ⟨mon', nextId', hrun, hiff⟩ := insertAdopted_undisturbed geometry hwf' hidx
    (lt_succ_self nextId) (fun w hw => (hwf.fresh w hw).ne) hid hadopt
  refine ⟨mon', nextId', hrun, hiff.mpr fun h => ?_⟩
  cases (hused.symm.trans h.2 : true = false)

/-- A new workspace with a name comes while there are no outputs. -/
theorem insertNoOutputs_undisturbed (self : Layout Id) (hidx : idx ≤ workspaces.length)
    (config : WorkspaceConfig) :
    ∃ self' nextId', ((show LayoutM (Layout Id) from do
        let ws ← newWorkspaceNoOutputs config self.options
        let workspaces ← Vec.insertAt workspaces idx ws
        return { self with monitorSet := .noOutputs workspaces }).run geometry).run nextId =
        some (self', nextId') ∧
      (MonitorSet.noOutputs workspaces).Undisturbed nextId self'.monitorSet := by
  obtain ⟨front, rest, rfl, rfl⟩ : ∃ front rest, workspaces = front ++ rest ∧ front.length = idx :=
    ⟨workspaces.take idx, workspaces.drop idx, (take_append_drop ..).symm, length_take_of_le hidx⟩
  refine ⟨{ self with monitorSet := .noOutputs (front ++
    Workspace.newWithConfigNoOutputs nextId (some config) self.options :: rest) },
    nextId + 1, ?_, ?_⟩
  · exact (run_bind rfl).trans
      ((run_lift_bind (insertAt_eq_some.mpr ⟨front, rest, rfl, rfl, rfl⟩)).trans rfl)
  · change usedExcept _ _ = usedExcept _ _
    have hid : (Workspace.newWithConfigNoOutputs nextId (some config) self.options :
        Workspace Id).id = nextId := rfl
    rw [usedExcept_append, usedExcept_append, usedExcept_cons_self hid]

/-- Whether `add_named_workspace` finds what is referred to. -/
def finds (self : Layout Id) (reference : Option WorkspaceReference) : Bool :=
  match self.monitorSet with
  | .normal monitors _ activeIdx =>
    reference.all fun reference =>
      (MonitorSet.findMonitorWorkspaceByRef monitors activeIdx reference).isSome
  | .noOutputs workspaces => (refIdxNoOutputs workspaces reference).isSome

/-- `add_named_workspace` is refused. -/
theorem addNamedWorkspace_refused {name : String} {reference : Option WorkspaceReference}
    (position : WorkspaceInsertionPosition) (activate : Bool)
    (h : name.isEmpty = true ∨ (self.findWorkspaceByName name).isSome = true ∨
      self.finds reference = false) :
    ((self.addNamedWorkspace name reference position activate).run geometry).run nextId =
      some (self, nextId) := by
  unfold addNamedWorkspace
  by_cases hname : name.isEmpty = true ∨ (self.findWorkspaceByName name).isSome = true
  · rw [if_pos hname]
    rfl
  · have hfinds : self.finds reference = false := by
      rw [not_or] at hname
      exact (h.resolve_left hname.1).resolve_left hname.2
    rw [if_neg hname]
    unfold finds at hfinds
    cases hset : self.monitorSet with
    | normal monitors primaryIdx activeIdx =>
      rw [hset] at hfinds
      obtain ⟨reference, rfl, hnone⟩ : ∃ r, reference = some r ∧
          MonitorSet.findMonitorWorkspaceByRef monitors activeIdx r = none := by
        cases reference with
        | none => cases hfinds
        | some r => exact ⟨r, rfl, by simpa using hfinds⟩
      dsimp only
      rw [hnone]
      rfl
    | noOutputs workspaces =>
      rw [hset] at hfinds
      have hnone : refIdxNoOutputs workspaces reference = none := by simpa using hfinds
      dsimp only
      rw [hnone]
      rfl

/-- The place that `add_named_workspace` looks up while there are outputs. -/
def refPlace (monitors : List (Monitor Id)) (activeIdx : ℕ) (reference : Option WorkspaceReference) :
    LayoutM (Option (ℕ × ℕ)) :=
  match reference with
  | some reference => some (MonitorSet.findMonitorWorkspaceByRef monitors activeIdx reference)
  | none => (monitors[activeIdx]?).map fun mon => some (activeIdx, mon.activeWorkspaceIdx)

/-- `add_named_workspace`, without activating the workspace. -/
theorem addNamedWorkspace_undisturbed (hwf : self.WellFormed nextId) (name : String)
    (reference : Option WorkspaceReference) (position : WorkspaceInsertionPosition) :
    ∃ self' nextId',
      ((self.addNamedWorkspace name reference position false).run geometry).run nextId =
        some (self', nextId') ∧
      self.monitorSet.Undisturbed nextId self'.monitorSet := by
  by_cases hrefused : name.isEmpty = true ∨ (self.findWorkspaceByName name).isSome = true ∨
      self.finds reference = false
  · exact ⟨self, nextId, addNamedWorkspace_refused geometry position false hrefused,
      undisturbed_refl nextId _⟩
  · rw [not_or, not_or, not_eq_false] at hrefused
    obtain ⟨hempty, htaken, hfinds⟩ := hrefused
    unfold addNamedWorkspace
    rw [if_neg (not_or.mpr ⟨hempty, htaken⟩)]
    unfold finds at hfinds
    cases hset : self.monitorSet with
    | normal monitors primaryIdx activeIdx =>
      rw [hset] at hfinds
      obtain ⟨monIdx, refIdx, mon, ws, hfound, hmon, hws, hwfMon⟩ :
          ∃ monIdx refIdx mon ws, ((refPlace monitors activeIdx reference).run geometry).run nextId =
            some (some (monIdx, refIdx), nextId) ∧
          monitors[monIdx]? = some mon ∧ mon.workspaces[refIdx]? = some ws ∧
            mon.WellFormed nextId := by
        cases reference with
        | none =>
          obtain ⟨-, hactive⟩ := hwf.indices _ _ _ hset
          have hmonWf : monitors[activeIdx].WellFormed nextId :=
            hwf.monitors _ (by rw [hset]; exact getElem_mem hactive)
          have hget := List.getElem?_eq_getElem hactive
          exact ⟨activeIdx, _, _, _, run_lift (by rw [hget]; rfl), hget,
            List.getElem?_eq_getElem hmonWf.active, hmonWf⟩
        | some reference =>
          obtain ⟨⟨monIdx, refIdx⟩, hfind⟩ := isSome_iff_exists.mp hfinds
          obtain ⟨mon, ws, hmon, hws, hmonWf⟩ := hwf.find hset hfind
          exact ⟨monIdx, refIdx, mon, ws, run_lift (congrArg some hfind), hmon, hws, hmonWf⟩
      have hlt := (List.getElem?_eq_some_iff.mp hws).1
      have hidx : position.insertIdx refIdx ≤ mon.workspaces.length := by
        cases position with
        | before => exact hlt.le
        | after => exact hlt
      obtain ⟨mon', nextId', hrun, hkept⟩ :=
        insertNew_undisturbed geometry hwfMon hidx ⟨name, none, none⟩ self.options
      refine ⟨{ self with monitorSet := .normal (monitors.set monIdx mon') primaryIdx activeIdx },
        nextId', ?_, (undisturbed_set hmon primaryIdx activeIdx).mpr hkept⟩
      refine (run_bind hfound).trans ?_
      refine (run_lift_bind hmon).trans ((run_bind rfl).trans ?_)
      exact (run_bind hrun).trans rfl
    | noOutputs workspaces =>
      rw [hset] at hfinds
      obtain ⟨refIdx, hidx⟩ := isSome_iff_exists.mp hfinds
      dsimp only
      rw [hidx]
      exact insertNoOutputs_undisturbed geometry self (min_le_right _ _) ⟨name, none, none⟩

/-- `ensure_named_workspace`. -/
theorem ensureNamedWorkspace_undisturbed (geometry : Output → OutputGeometry)
    (hwf : self.WellFormed nextId) (wsConfig : WorkspaceConfig) :
    ∃ self' nextId', ((self.ensureNamedWorkspace wsConfig).run geometry).run nextId =
        some (self', nextId') ∧
      self.monitorSet.Undisturbed nextId self'.monitorSet ∧
      ((self.findWorkspaceByName wsConfig.name).isSome = true → self' = self ∧ nextId' = nextId) := by
  unfold ensureNamedWorkspace
  by_cases htaken : (self.findWorkspaceByName wsConfig.name).isSome = true
  · rw [if_pos htaken]
    exact ⟨self, nextId, rfl, undisturbed_refl nextId _, fun _ => ⟨rfl, rfl⟩⟩
  · rw [if_neg htaken]
    cases hset : self.monitorSet with
    | normal monitors primaryIdx activeIdx =>
      obtain ⟨hprimary, hactive⟩ := hwf.indices _ _ _ hset
      have key : ∀ monIdx < monitors.length, ∃ self' nextId', ((show LayoutM (Layout Id) from do
          let mon ← monitors[monIdx]?
          let ws ← newWorkspaceWithConfig mon.output wsConfig self.options
          let mon ← mon.insertWorkspace ws 0 false
          return { self with
            monitorSet := .normal (monitors.set monIdx mon) primaryIdx activeIdx }).run
              geometry).run nextId = some (self', nextId') ∧
          (MonitorSet.normal monitors primaryIdx activeIdx).Undisturbed nextId
            self'.monitorSet := by
        intro monIdx hlt
        have hmon := List.getElem?_eq_getElem hlt
        have hwfMon : monitors[monIdx].WellFormed nextId :=
          hwf.monitors _ (by rw [hset]; exact getElem_mem hlt)
        obtain ⟨mon', nextId', hrun, hkept⟩ :=
          insertNew_undisturbed geometry hwfMon (zero_le _) wsConfig self.options
        refine ⟨{ self with monitorSet := .normal (monitors.set monIdx mon') primaryIdx activeIdx },
          nextId', ?_, (undisturbed_set hmon primaryIdx activeIdx).mpr hkept⟩
        exact (run_lift_bind hmon).trans ((run_bind rfl).trans ((run_bind hrun).trans rfl))
      cases hopen : wsConfig.openOnOutput with
      | none =>
        obtain ⟨self', nextId', hrun, hkept⟩ := key activeIdx hactive
        exact ⟨self', nextId', hrun, hkept, fun h => absurd h htaken⟩
      | some name =>
        have hlt : (monitors.findIdx? fun mon => outputMatchesName mon.output name).getD primaryIdx <
            monitors.length := by
          cases hfind : monitors.findIdx? fun mon => outputMatchesName mon.output name with
          | none => exact hprimary
          | some idx => exact position_lt hfind
        obtain ⟨self', nextId', hrun, hkept⟩ := key _ hlt
        exact ⟨self', nextId', hrun, hkept, fun h => absurd h htaken⟩
    | noOutputs workspaces =>
      obtain ⟨self', nextId', hrun, hkept⟩ :=
        insertNoOutputs_undisturbed geometry self (zero_le workspaces.length) wsConfig
      exact ⟨self', nextId', hrun, hkept, fun h => absurd h htaken⟩

/-- `insert_workspace` without activating, on a monitor of the layout. -/
theorem insertWorkspace_undisturbed (hwf : self.WellFormed nextId)
    (hmon : mon ∈ self.monitorSet.monitors) {nextId' : WorkspaceId} (hinv : ws.Inv)
    (hlt : ws.id < nextId) (hnew : ∀ w ∈ mon.workspaces, w.id ≠ ws.id)
    (hidx : idx ≤ mon.workspaces.length)
    (hrun : ((mon.insertWorkspace ws idx false).run geometry).run nextId = some (mon', nextId')) :
    mon.Undisturbed ws.id mon' ↔ ¬ (mon.MergesActive ∧ ws.hasWindowsOrName = false) := by
  obtain ⟨⟨ws', n⟩, hadopt, -⟩ := bind_eq_some_iff.mp hrun
  obtain ⟨rfl, hid, hused⟩ :=
    adoptWorkspace_frame geometry mon.output mon.options hinv hadopt
  obtain ⟨mon'', nextId'', hrun', hiff⟩ := insertAdopted_undisturbed geometry
    (hwf.monitors mon hmon) hidx hlt hnew hid hadopt
  cases some.inj (hrun.symm.trans hrun')
  rw [hiff, hused]

/-- **Other workspaces come and go beside the active one**: nothing is disturbed, unless an empty
    workspace is kept above the first and the active one is the last, and none but the removed one
    (or, with an empty one that is inserted, none at all) is used.  What is refused changes
    nothing. -/
theorem workspaces_undisturbed (hwf : self.WellFormed nextId)
    (geometry : Output → OutputGeometry) :
    (∀ reference mon idx ws, self.toRemove reference = some (mon, idx, ws) →
      ws.hasWindows = false → (∀ m ∈ mon, idx ≠ m.activeWorkspaceIdx) →
      ∃ self' nextId', ((self.removeWorkspace reference).run geometry).run nextId =
          some (self', nextId') ∧
        (self.monitorSet.Undisturbed ws.id self'.monitorSet ↔
          ∀ m ∈ mon, ¬ m.MergesWithout ws.id)) ∧
    (∀ mon ∈ self.monitorSet.monitors, ∀ (ws : Workspace Id) (idx : ℕ), ws.Inv →
      ws.id < nextId → (∀ w ∈ mon.workspaces, w.id ≠ ws.id) → idx ≤ mon.workspaces.length →
      ∀ mon' nextId', ((mon.insertWorkspace ws idx false).run geometry).run nextId =
          some (mon', nextId') →
        (mon.Undisturbed ws.id mon' ↔ ¬ (mon.MergesActive ∧ ws.hasWindowsOrName = false))) ∧
    (∀ name reference position, ∃ self' nextId',
      ((self.addNamedWorkspace name reference position false).run geometry).run nextId =
          some (self', nextId') ∧
        self.monitorSet.Undisturbed nextId self'.monitorSet) ∧
    (∀ wsConfig, ∃ self' nextId',
      ((self.ensureNamedWorkspace wsConfig).run geometry).run nextId = some (self', nextId') ∧
        self.monitorSet.Undisturbed nextId self'.monitorSet ∧
        ((self.findWorkspaceByName wsConfig.name).isSome = true →
          self' = self ∧ nextId' = nextId)) ∧
    (∀ reference, (∀ mon idx ws, self.toRemove reference = some (mon, idx, ws) →
        ws.hasWindows = true) →
      ((self.removeWorkspace reference).run geometry).run nextId = some (self, nextId)) ∧
    ∀ name reference position activate,
      (name.isEmpty = true ∨ (self.findWorkspaceByName name).isSome = true ∨
        self.finds reference = false) →
      ((self.addNamedWorkspace name reference position activate).run geometry).run nextId =
        some (self, nextId) := by
  refine ⟨?_, ?_, ?_, ?_, ?_, ?_⟩
  · intro reference mon idx ws hfound hwindows hne
    exact removeWorkspace_undisturbed geometry hwf hfound hwindows hne
  · intro mon hmon ws idx hinv hlt hnew hidx mon' nextId' hrun
    exact insertWorkspace_undisturbed geometry hwf hmon hinv hlt hnew hidx hrun
  · intro name reference position
    exact addNamedWorkspace_undisturbed geometry hwf name reference position
  · intro wsConfig
    exact ensureNamedWorkspace_undisturbed geometry hwf wsConfig
  · intro reference hrefused
    exact removeWorkspace_refused geometry hwf hrefused
  · intro name reference position activate hrefused
    exact addNamedWorkspace_refused geometry position activate hrefused

end Layout

/-! ## The active workspace is one too many -/

open Monitor (someOutput someGeometry aboveFirst someWorkspace)

/-- One named workspace between the empty ones, the last of which is active. -/
def lastActive : Monitor ℕ where
  output := someOutput
  workspaces := [someWorkspace 0 none, someWorkspace 1 (some "web"), someWorkspace 2 none]
  activeWorkspaceIdx := 2
  previousWorkspaceId := none
  workspaceSwitch := none
  overviewOpen := false
  baseOptions := aboveFirst
  options := aboveFirst
  layoutConfig := none

/-- A layout of this monitor. -/
def lastActiveLayout : Layout ℕ :=
  { Layout.withOptions aboveFirst with monitorSet := .normal [lastActive] 0 0 }

theorem lastActiveLayout_wellFormed : lastActiveLayout.WellFormed 3 where
  monitors := fun mon hmon => by
    obtain rfl : mon = lastActive := mem_singleton.mp hmon
    refine ⟨by decide, fun ws hws => ?_, fun _ ws hws => ?_, fun _ => by decide,
      fun _ idx ws hget hstart hlast hactive => ?_, by decide, by decide⟩
    · cases hws
      rfl
    · cases hws
      rfl
    · match idx, hget, hstart, hlast, hactive with
      | 0, _, hstart, _, _ => exact absurd hstart (by decide)
      | 1, hget, _, _, _ =>
        cases hget
        rfl
      | n + 2, _, _, hlast, _ => exact absurd hlast (by change ¬ n + 2 + 1 < 3; omega)
  indices := fun monitors primaryIdx activeIdx hset => by
    cases hset
    exact ⟨by decide, by decide⟩
  ids := by decide
  fresh := by decide

theorem workspaces_undisturbed_lastActive : ∃ self' nextId',
    ((lastActiveLayout.removeWorkspace (.id 0)).run someGeometry).run 3 = some (self', nextId') ∧
      (lastActiveLayout.monitorSet.Undisturbed 0 self'.monitorSet ↔
        ¬ lastActive.MergesWithout 0) := by
  obtain ⟨self', nextId', hrun, hiff⟩ :=
    (Layout.workspaces_undisturbed lastActiveLayout_wellFormed someGeometry).1 (.id 0)
      (some lastActive) 0 (someWorkspace 0 none) rfl rfl
      (fun m hm => by cases hm; decide)
  refine ⟨self', nextId', hrun, hiff.trans ⟨fun h => h lastActive rfl, fun h m hm => ?_⟩⟩
  cases hm
  exact h

/-- **Removing "web" loses the active workspace**: of the two empty workspaces that are left, the
    first one stays. -/
theorem removeWorkspace_disturbs : ∃ self' nextId',
    ((lastActiveLayout.removeWorkspace (.name "web")).run someGeometry).run 3 =
        some (self', nextId') ∧
      (lastActiveLayout.toRemove (.name "web")).map (·.2) = some (1, someWorkspace 1 (some "web")) ∧
      (self'.monitorSet.monitors.map fun mon => mon.activeWorkspace.map (·.id)) = [some 0] ∧
      (lastActiveLayout.monitorSet.monitors.map fun mon => mon.activeWorkspace.map (·.id)) =
        [some 2] ∧
      ¬ lastActiveLayout.monitorSet.Undisturbed 1 self'.monitorSet := by
  obtain ⟨self', nextId', hrun, hactive⟩ : ∃ self' nextId',
      ((lastActiveLayout.removeWorkspace (.name "web")).run someGeometry).run 3 =
          some (self', nextId') ∧
        (self'.monitorSet.monitors.map fun mon => mon.activeWorkspace.map (·.id)) = [some 0] :=
    ⟨_, _, rfl, rfl⟩
  refine ⟨self', nextId', hrun, rfl, hactive, by decide, fun h => ?_⟩
  cases hset : self'.monitorSet with
  | normal monitors primaryIdx activeIdx =>
    rw [hset] at h hactive
    obtain ⟨-, hkept⟩ := h
    cases hkept with
    | cons hfirst hrest =>
      cases hrest
      have hzero := (List.cons.inj hactive).1
      exact absurd (hzero.symm.trans hfirst.focus) (by decide)
  | noOutputs workspaces =>
    rw [hset] at h
    exact h

end Tiri.Layout
