import Tiri.Layout.Monitor
import Tiri.Layout.WorkspaceInvariant

/-!
# Moving workspaces on a monitor

`move_workspace_down`, `move_workspace_up` and `move_workspace_to_idx` put a workspace in another
place, add empty workspaces where the ends are no longer empty, find the active workspace again and
clean up.

Results:
* `cleanUpWorkspaces_spec`: what a clean-up leaves, and which workspace is active after it;
* `moveWorkspaces_reorder`: moves down and up keep the focus and the order, and moves to an index do
  unless the focus is lost;
* `toFirst_losesFocus`: how the focus is lost.
-/

namespace Tiri.Layout.Monitor

open Option Nat Vec
open List hiding pure_def

variable {Id : Type}

variable (self : Monitor Id)

/-- The first workspace that a clean-up looks at. -/
def rangeStart : ℕ := if self.emptyAboveFirst then 1 else 0

/-- **Well-formed monitors** (`verify_invariants`), and the counter of workspace ids. -/
structure WellFormed (mon : Monitor Id) (nextId : WorkspaceId) : Prop where
  active : mon.activeWorkspaceIdx < mon.workspaces.length
  last : ∀ ws ∈ mon.workspaces.getLast?, ws.hasWindowsOrName = false
  first : mon.emptyAboveFirst = true → ∀ ws ∈ mon.workspaces.head?, ws.hasWindowsOrName = false
  ends : mon.emptyAboveFirst = true → mon.workspaces.length ≠ 2
  /-- Without a switch, the others are used or active. -/
  used : mon.workspaceSwitch = none → ∀ idx ws, mon.workspaces[idx]? = some ws →
    mon.rangeStart ≤ idx → idx + 1 < mon.workspaces.length → idx ≠ mon.activeWorkspaceIdx →
      ws.hasWindowsOrName = true
  ids : (mon.workspaces.map (·.id)).Nodup
  fresh : ∀ ws ∈ mon.workspaces, ws.id < nextId

/-- The workspaces whose order matters: those that are used, and the active one. -/
def keeps (ws : Workspace Id) : Bool :=
  ws.hasWindowsOrName || self.activeWorkspace.any (·.id = ws.id)

/-- The index that is asked for, or the last one. -/
def clampedIdx (newIdx : ℕ) : ℕ := min newIdx (self.workspaces.length - 1)

/-- **Reordering keeps the focus**: the same workspace is active, and the workspaces are in the old
    order but for the one that has moved to its new place. -/
structure Reordered (mon mon' : Monitor Id) (oldIdx newIdx : ℕ) : Prop where
  focus : mon'.activeWorkspace = mon.activeWorkspace
  order : mon'.workspaces.filter mon.keeps =
    (Vec.moveTo mon.workspaces oldIdx (mon.clampedIdx newIdx)).filter mon.keeps

/-- The new workspace at the top shifts the active workspace and the index moved to, but not
    the index moved from: they are mixed up when the first workspace, being active, is moved, or
    when the active workspace or the one below it is moved to the top. -/
def MixesUp (oldIdx newIdx : ℕ) : Prop :=
  oldIdx = 0 ∧ self.activeWorkspaceIdx = 0 ∨
    newIdx = 0 ∧ (self.activeWorkspaceIdx = oldIdx ∨ self.activeWorkspaceIdx + 1 = oldIdx)

/-- No workspace is used, and the last one, which is active, is one too many. -/
def MergesLast (oldIdx newIdx : ℕ) : Prop :=
  self.activeWorkspaceIdx + 1 = self.workspaces.length ∧
    max oldIdx newIdx + 1 < self.workspaces.length ∧
    ∀ ws ∈ self.workspaces, ws.hasWindowsOrName = false

/-- When a move to an index loses the focus: only with an empty workspace above the first. -/
def LosesFocus (oldIdx newIdx : ℕ) : Prop :=
  self.emptyAboveFirst = true ∧ oldIdx < self.workspaces.length ∧ oldIdx ≠ self.clampedIdx newIdx ∧
    (self.MixesUp oldIdx (self.clampedIdx newIdx) ∨ self.MergesLast oldIdx (self.clampedIdx newIdx))

/-! ## Clean-up -/

theorem id_inj {l : List (Workspace Id)} (hids : (l.map (·.id)).Nodup) {i j : ℕ}
    {ws ws' : Workspace Id} (hi : l[i]? = some ws) (hj : l[j]? = some ws') (hid : ws.id = ws'.id) :
    i = j := by
  have hlt : i < (l.map (·.id)).length := by
    rw [length_map]
    exact (List.getElem?_eq_some_iff.mp hi).1
  refine (List.getElem?_inj hlt hids).mp ?_
  rw [List.getElem?_map, List.getElem?_map, hi, hj, map_some, map_some, hid]

section CleanUp

variable {self : Monitor Id} {pre mid post : List (Workspace Id)} {w act : Workspace Id} {idx : ℕ}

/-- A workspace that is used or active stays. -/
theorem cleanUpStep_keep (hget : self.workspaces[idx]? = some w)
    (hkeep : self.activeWorkspaceIdx = idx ∨ w.hasWindowsOrName = true) :
    self.cleanUpStep idx = some self := by
  unfold cleanUpStep
  rw [hget]
  by_cases hactive : self.activeWorkspaceIdx = idx
  · rw [if_pos hactive]
  · rw [if_neg hactive, bind_eq_bind, bind_some, if_pos (hkeep.resolve_left hactive)]
    rfl

/-- Another workspace goes, and the active one may move up. -/
theorem cleanUpStep_drop (hws : self.workspaces = pre ++ w :: post)
    (hactive : self.activeWorkspaceIdx ≠ pre.length) (hused : w.hasWindowsOrName = false) :
    ∃ self', self.cleanUpStep pre.length = some self' ∧ self'.workspaces = pre ++ post ∧
      self'.activeWorkspace = self.activeWorkspace ∧ self'.options = self.options := by
  have hget : self.workspaces[pre.length]? = some w := by
    rw [hws]
    exact Vec.getElem?_append_length _ _ _
  have herase : self.workspaces.eraseIdx pre.length = pre ++ post := by
    rw [hws]
    exact eraseIdx_append_length _ _ _
  unfold cleanUpStep
  rw [if_neg hactive, hget, herase]
  dsimp only [pure_def, bind_eq_bind, bind_some]
  rw [hused, if_neg Bool.false_ne_true]
  refine ⟨_, rfl, rfl, ?_, rfl⟩
  unfold activeWorkspace
  dsimp only
  rw [hws]
  split_ifs with hlt
  · -- After it, positions are one less.
    obtain ⟨n, hn⟩ : ∃ n, self.activeWorkspaceIdx = pre.length + 1 + n :=
      ⟨self.activeWorkspaceIdx - pre.length - 1, by omega⟩
    rw [hn, List.getElem?_append_right (by omega), List.getElem?_append_right (by omega),
      show pre.length + 1 + n - pre.length = n + 1 by omega, List.getElem?_cons_succ,
      show pre.length + 1 + n - 1 - pre.length = n by omega]
  · rw [List.getElem?_append_left (by omega), List.getElem?_append_left (by omega)]

/-- **The loop of a clean-up** leaves what is used and what is active.  The induction is on the
    workspaces that it has not looked at; it goes up from the last of them. -/
theorem cleanUpLoop_spec (hws : self.workspaces = pre ++ mid ++ post)
    (hids : (self.workspaces.map (·.id)).Nodup) (hact : self.activeWorkspace = some act) :
    ∃ self', cleanUpLoop pre.length mid.length self = some self' ∧
      self'.workspaces =
        pre ++ mid.filter (fun ws => ws.hasWindowsOrName || ws.id = act.id) ++ post ∧
      self'.activeWorkspace = some act ∧ self'.options = self.options := by
  induction mid using List.reverseRecOn generalizing self post with
  | nil => exact ⟨self, rfl, hws, hact, rfl⟩
  | append_singleton mid w ih =>
    have hlen : (mid ++ [w]).length = mid.length + 1 := length_append
    have hidx : pre.length + mid.length = (pre ++ mid).length := length_append.symm
    have hsplit : self.workspaces = (pre ++ mid) ++ w :: post := by
      rw [hws]
      simp
    have hget : self.workspaces[(pre ++ mid).length]? = some w := by
      rw [hsplit]
      exact Vec.getElem?_append_length _ _ _
    have hiff : self.activeWorkspaceIdx = (pre ++ mid).length ↔ w.id = act.id := by
      constructor
      · intro heq
        unfold activeWorkspace at hact
        rw [heq, hget] at hact
        cases hact
        rfl
      · exact fun hid => id_inj hids hact hget hid.symm
    rw [hlen, cleanUpLoop, hidx]
    by_cases hkeep : (w.hasWindowsOrName || decide (w.id = act.id)) = true
    · have hstays : self.activeWorkspaceIdx = (pre ++ mid).length ∨ w.hasWindowsOrName = true := by
        rw [hiff, or_comm]
        simpa using hkeep
      obtain ⟨self', hloop, hws', hrest⟩ := @ih self (w :: post) hsplit hids hact
      refine ⟨self', ?_, ?_, hrest⟩
      · rw [cleanUpStep_keep hget hstays]
        exact hloop
      · rw [hws', filter_append, filter_cons_of_pos (by simpa using hkeep)]
        simp
    · obtain ⟨hused, hid⟩ : w.hasWindowsOrName = false ∧ w.id ≠ act.id := by simpa using hkeep
      obtain ⟨self₁, hstep, hws₁, hact₁, hoptions₁⟩ :=
        cleanUpStep_drop hsplit (fun heq => hid (hiff.mp heq)) hused
      have hids₁ : (self₁.workspaces.map (·.id)).Nodup := by
        refine hids.sublist (List.Sublist.map _ ?_)
        rw [hws₁, hsplit]
        exact (List.Sublist.refl _).append (sublist_cons_self _ _)
      obtain ⟨self', hloop, hws', hact', hoptions'⟩ := ih hws₁ hids₁ (hact₁.trans hact)
      refine ⟨self', ?_, ?_, hact', hoptions'.trans hoptions₁⟩
      · rw [hstep]
        exact hloop
      · rw [hws', filter_append, filter_cons_of_neg (by simpa using hkeep)]
        simp

variable (pre mid) in
/-- **What a clean-up leaves.**  `act` is active, `pre` is the empty workspace above the first if
    there is to be one, and `last` the empty workspace below the last. -/
theorem cleanUpWorkspaces_spec {last : Workspace Id} (hswitch : self.workspaceSwitch = none)
    (hws : self.workspaces = pre ++ mid ++ [last]) (hpre : pre.length = self.rangeStart)
    (hfirst : ∀ ws ∈ pre, ws.hasWindowsOrName = false) (hlast : last.hasWindowsOrName = false)
    (hids : (self.workspaces.map (·.id)).Nodup) (hact : self.activeWorkspace = some act) :
    ∃ self', self.cleanUpWorkspaces = some self' ∧
      if pre ≠ [] ∧ act.id = last.id ∧ ∀ ws ∈ mid, ws.hasWindowsOrName = false then
        self'.activeWorkspace = pre.head?
      else self'.activeWorkspace = some act ∧
        self'.workspaces.filter (fun ws => ws.hasWindowsOrName || ws.id = act.id) =
          self.workspaces.filter (fun ws => ws.hasWindowsOrName || ws.id = act.id) := by
  obtain ⟨self', hloop, hws', hact', hoptions⟩ := cleanUpLoop_spec hws hids hact
  have hrange : self.workspaces.length - 1 - self.rangeStart = mid.length := by
    rw [hws, ← hpre]
    simp
  have hloop' : cleanUpLoop self.rangeStart (self.workspaces.length - 1 - self.rangeStart) self =
      some self' := by
    rw [hrange, ← hpre]
    exact hloop
  have habove : self'.emptyAboveFirst = self.emptyAboveFirst := by
    unfold emptyAboveFirst
    rw [hoptions]
  have hrun : self.cleanUpWorkspaces = self'.mergeEnds := by
    unfold rangeStart at hloop'
    unfold cleanUpWorkspaces
    rw [hswitch, if_neg (by simp)]
    dsimp only
    rw [bind_eq_bind, hloop', bind_some]
  have hfilter : self'.workspaces.filter (fun ws => ws.hasWindowsOrName || ws.id = act.id) =
      self.workspaces.filter (fun ws => ws.hasWindowsOrName || ws.id = act.id) := by
    rw [hws', hws]
    simp only [filter_append, List.filter_filter, Bool.and_self]
  rw [hrun]
  cases pre with
  | nil =>
    have hnot : self'.emptyAboveFirst = false := by
      rw [habove]
      unfold rangeStart at hpre
      by_contra habove
      rw [if_pos (by simpa using habove)] at hpre
      cases hpre
    have hmerge : self'.mergeEnds = some self' := by
      unfold mergeEnds
      split
      · rw [hnot, if_neg Bool.false_ne_true]
      · rfl
    refine ⟨self', hmerge, ?_⟩
    exact ⟨hact', hfilter⟩
  | cons first pre =>
    have hnil : pre = [] := by
      unfold rangeStart at hpre
      split_ifs at hpre
      simpa using hpre
    subst hnil
    have habove' : self'.emptyAboveFirst = true := by
      rw [habove]
      by_contra hnot
      unfold rangeStart at hpre
      rw [if_neg hnot] at hpre
      cases hpre
    have hunused := hfirst first mem_cons_self
    rw [singleton_append] at hws hws'
    cases hmid : mid.filter (fun ws => ws.hasWindowsOrName || ws.id = act.id) with
    | nil =>
      -- The two ends are left, and become one.
      rw [hmid] at hws'
      have hmerge : self'.mergeEnds =
          some { self' with workspaces := [first], activeWorkspaceIdx := 0 } := by
        unfold mergeEnds
        rw [hws']
        simp [habove', hunused, hlast]
      have hnone : ∀ ws ∈ mid, ws.hasWindowsOrName = false ∧ ws.id ≠ act.id := fun ws hin => by
        simpa using filter_eq_nil_iff.mp hmid ws hin
      rw [hmerge]
      refine ⟨_, rfl, ?_⟩
      split_ifs with hlosing
      · rfl
      · have hid : act.id ≠ last.id := fun hid =>
          hlosing ⟨cons_ne_nil _ _, hid, fun ws hin => (hnone ws hin).1⟩
        have hmem : act ∈ self'.workspaces := mem_of_getElem? hact'
        rw [hws'] at hmem
        have heq : act = first := by
          rcases mem_cons.mp hmem with heq | hmem
          · exact heq
          · have heq : act = last := by simpa using hmem
            exact absurd (congrArg (·.id) heq) hid
        have hdrop : [last].filter (fun ws => ws.hasWindowsOrName || ws.id = act.id) = [] := by
          rw [filter_eq_nil_iff]
          intro ws hin
          rw [mem_singleton.mp hin, hlast]
          simpa using hid.symm
        refine ⟨congrArg some heq.symm, ?_⟩
        rw [← hfilter, hws', filter_append, hdrop, append_nil]
    | cons w rest =>
      have hmerge : self'.mergeEnds = some self' := by
        unfold mergeEnds
        rw [hws', hmid]
        split
        · rename_i heq
          simp at heq
        · rfl
      have hkept : ¬ (act.id = last.id ∧ ∀ ws ∈ mid, ws.hasWindowsOrName = false) := by
        rintro ⟨hid, hnone⟩
        have hw : w ∈ mid.filter (fun ws => ws.hasWindowsOrName || ws.id = act.id) := by
          rw [hmid]
          exact mem_cons_self
        obtain ⟨hin, hkeep⟩ := mem_filter.mp hw
        have hwid : w.id = last.id := by
          rw [hnone w hin, Bool.false_or, decide_eq_true_iff] at hkeep
          exact hkeep.trans hid
        rw [hws, cons_append, map_cons, map_append] at hids
        have hdisj := (nodup_append.mp (nodup_cons.mp hids).2).2.2
        exact hdisj _ (mem_map_of_mem hin) _ (by simp) hwid
      refine ⟨self', hmerge, ?_⟩
      rw [if_neg fun h => hkept h.2]
      exact ⟨hact', hfilter⟩

/-- The active workspace is the last one, and no workspace is used: it is one too many. -/
def MergesActive (self : Monitor Id) : Prop :=
  self.emptyAboveFirst = true ∧ self.activeWorkspaceIdx + 1 = self.workspaces.length ∧
    ∀ ws ∈ self.workspaces, ws.hasWindowsOrName = false

variable (self) in
/-- The same by positions. -/
theorem cleanUpWorkspaces_of_ends (hswitch : self.workspaceSwitch = none)
    (hlen : 2 ≤ self.workspaces.length)
    (hfirst : self.emptyAboveFirst = true →
      ∀ ws ∈ self.workspaces.head?, ws.hasWindowsOrName = false)
    (hlast : ∀ ws ∈ self.workspaces.getLast?, ws.hasWindowsOrName = false)
    (hids : (self.workspaces.map (·.id)).Nodup) (hact : self.activeWorkspace = some act) :
    ∃ self', self.cleanUpWorkspaces = some self' ∧
      (self.MergesActive → self'.activeWorkspace = self.workspaces.head?) ∧
      (¬ self.MergesActive → self'.activeWorkspace = some act ∧
        self'.workspaces.filter (fun ws => ws.hasWindowsOrName || ws.id = act.id) =
          self.workspaces.filter (fun ws => ws.hasWindowsOrName || ws.id = act.id)) := by
  -- Around the workspaces in between.
  obtain ⟨first, mid, last, hws⟩ : ∃ first mid last, self.workspaces = first :: (mid ++ [last]) := by
    match hws : self.workspaces, hlen with
    | first :: second :: rest, _ =>
      exact ⟨first, (second :: rest).dropLast, (second :: rest).getLast (cons_ne_nil _ _),
        by rw [dropLast_append_getLast (cons_ne_nil second rest)]⟩
  have hlastId : act.id = last.id ↔ self.activeWorkspaceIdx + 1 = self.workspaces.length := by
    have hget : self.workspaces[mid.length + 1]? = some last := by
      rw [hws, List.getElem?_cons_succ]
      exact Vec.getElem?_append_length mid [] last
    have hlength : self.workspaces.length = mid.length + 2 := by
      rw [hws]
      simp
    constructor
    · intro hid
      have := id_inj hids hact hget hid
      omega
    · intro hidx
      have heq : self.activeWorkspaceIdx = mid.length + 1 := by omega
      unfold activeWorkspace at hact
      rw [heq, hget] at hact
      cases hact
      rfl
  have hunusedLast : last.hasWindowsOrName = false := hlast last (by
    rw [hws, ← cons_append, List.getLast?_concat]
    rfl)
  cases habove : self.emptyAboveFirst with
  | true =>
    have hunusedFirst : first.hasWindowsOrName = false := hfirst habove first (by rw [hws]; rfl)
    have hstart : [first].length = self.rangeStart := by
      unfold rangeStart
      rw [habove]
      rfl
    obtain ⟨self', hrun, hleft⟩ := cleanUpWorkspaces_spec [first] mid hswitch hws
      hstart (fun ws hin => (mem_singleton.mp hin) ▸ hunusedFirst) hunusedLast hids hact
    have hcond : self.MergesActive ↔
        [first] ≠ [] ∧ act.id = last.id ∧ ∀ ws ∈ mid, ws.hasWindowsOrName = false := by
      unfold MergesActive
      rw [hlastId, hws, habove]
      simp [hunusedFirst, hunusedLast, or_imp, forall_and]
    refine ⟨self', hrun, fun hmerges => ?_, fun hmerges => ?_⟩
    · rw [if_pos (hcond.mp hmerges)] at hleft
      rw [hleft, hws]
      rfl
    · rw [if_neg (mt hcond.mpr hmerges)] at hleft
      exact hleft
  | false =>
    have hstart : ([] : List (Workspace Id)).length = self.rangeStart := by
      unfold rangeStart
      rw [habove]
      rfl
    obtain ⟨self', hrun, hleft⟩ := cleanUpWorkspaces_spec [] (first :: mid) hswitch hws
      hstart (fun ws hin => (not_mem_nil hin).elim) hunusedLast hids hact
    refine ⟨self', hrun, fun hmerges => ?_, fun _ => hleft⟩
    rw [MergesActive, habove] at hmerges
    exact absurd hmerges.1 Bool.false_ne_true

end CleanUp

/-! ## New workspaces at the ends -/

/-- Workspaces that are new and empty. -/
structure Spare (spare : List (Workspace Id)) (count : ℕ) (n n' : WorkspaceId) : Prop where
  length : spare.length = count
  unused : ∀ ws ∈ spare, ws.hasWindowsOrName = false
  ids : (spare.map (·.id)).Nodup
  fresh : ∀ ws ∈ spare, n ≤ ws.id ∧ ws.id < n'
  le : n ≤ n'

variable (n : WorkspaceId)

theorem spare_nil : Spare ([] : List (Workspace Id)) 0 n n :=
  ⟨rfl, fun _ h => (not_mem_nil h).elim, nodup_nil, fun _ h => (not_mem_nil h).elim, le_rfl⟩

theorem spare_new (geometry : Output → OutputGeometry) (output : Output) (options : Options) :
    Spare [(Workspace.new n geometry output options : Workspace Id)] 1 n
      (n + 1) where
  length := rfl
  unused := fun ws h => by
    rw [mem_singleton.mp h]
    rfl
  ids := nodup_singleton _
  fresh := fun ws h => by
    rw [mem_singleton.mp h]
    exact ⟨le_rfl, lt_succ_self n⟩
  le := le_succ n

/-- Ids from the counter are new. -/
theorem nodup_spares {top mid bottom : List (Workspace Id)} {c c' : ℕ} {n n₁ n₂ : WorkspaceId}
    (hbottom : Spare bottom c n n₁) (htop : Spare top c' n₁ n₂) (hids : (mid.map (·.id)).Nodup)
    (hold : ∀ ws ∈ mid, ws.id < n) : ((top ++ mid ++ bottom).map (·.id)).Nodup := by
  rw [map_append, map_append]
  refine (htop.ids.append hids fun a ha ha' => ?_).append hbottom.ids fun a ha ha' => ?_
  · obtain ⟨t, ht, rfl⟩ := mem_map.mp ha
    obtain ⟨ws, hin, hid⟩ := mem_map.mp ha'
    have hlt := (hold ws hin).trans_le (hbottom.le.trans (htop.fresh t ht).1)
    exact hlt.ne hid
  · obtain ⟨b, hb, rfl⟩ := mem_map.mp ha'
    rw [← map_append] at ha
    obtain ⟨ws, hin, hid⟩ := mem_map.mp ha
    rcases mem_append.mp hin with hin | hin
    · have hlt := (hbottom.fresh b hb).2.trans_le (htop.fresh ws hin).1
      exact hlt.ne' hid
    · have hlt := (hold ws hin).trans_le (hbottom.fresh b hb).1
      exact hlt.ne hid

/-- The new workspace at the top shifts the others. -/
theorem Spare.shiftedIdx_eq {self : Monitor Id} {c : Bool} {top : List (Workspace Id)}
    {n n' : WorkspaceId}
    (htop : Spare top (if self.emptyAboveFirst = true ∧ c = true then 1 else 0) n n') (idx : ℕ) :
    self.shiftedIdx c idx = idx + top.length := by
  unfold shiftedIdx
  rw [htop.length]
  by_cases hc : self.emptyAboveFirst = true ∧ c = true
  · rw [if_pos hc, if_pos (by simpa using hc)]
  · rw [if_neg hc, if_neg (by simpa using hc), add_zero]

section Ends

variable (self : Monitor Id) (geometry : Output → OutputGeometry) (n : WorkspaceId)

theorem addWorkspaceAt_run {idx : ℕ} (h : idx ≤ self.workspaces.length) :
    ∃ switch, ((self.addWorkspaceAt idx).run geometry).run n = some ({ self with
        workspaces := self.workspaces.insertIdx idx
          (Workspace.new n geometry self.output self.options)
        activeWorkspaceIdx :=
          if idx ≤ self.activeWorkspaceIdx then self.activeWorkspaceIdx + 1
          else self.activeWorkspaceIdx
        workspaceSwitch := switch }, n + 1) := by
  unfold addWorkspaceAt Vec.insertAt
  simp only [if_pos h]
  exact ⟨_, rfl⟩

theorem bottomIf_spec (hactive : self.activeWorkspaceIdx < self.workspaces.length) (c : Bool) :
    ∃ self' spare n', ((self.bottomIf c).run geometry).run n = some (self', n') ∧
      Spare spare (if c = true then 1 else 0) n n' ∧
      self'.workspaces = self.workspaces ++ spare ∧
      self'.activeWorkspaceIdx = self.activeWorkspaceIdx ∧ self'.options = self.options ∧
      self'.output = self.output := by
  cases c with
  | false => exact ⟨self, [], n, rfl, spare_nil n, (append_nil _).symm, rfl, rfl, rfl⟩
  | true =>
    obtain ⟨switch, hrun⟩ := addWorkspaceAt_run self geometry n le_rfl
    refine ⟨_, _, n + 1, hrun, spare_new n geometry self.output self.options, ?_, ?_, rfl, rfl⟩
    · exact insertIdx_length_self
    · exact if_neg (not_le.mpr hactive)

theorem topIf_spec (c : Bool) :
    ∃ self' spare n', ((self.topIf c).run geometry).run n = some (self', n') ∧
      Spare spare (if self.emptyAboveFirst = true ∧ c = true then 1 else 0) n n' ∧
      self'.workspaces = spare ++ self.workspaces ∧
      self'.activeWorkspaceIdx = self.activeWorkspaceIdx + spare.length ∧
      self'.options = self.options ∧ self'.output = self.output := by
  unfold topIf
  by_cases hc : self.emptyAboveFirst = true ∧ c = true
  · rw [if_pos (by simpa using hc), if_pos hc]
    obtain ⟨switch, hrun⟩ := addWorkspaceAt_run self geometry n (zero_le _)
    refine ⟨_, _, n + 1, hrun, spare_new n geometry self.output self.options, ?_, ?_, rfl, rfl⟩
    · exact insertIdx_zero
    · simp
  · rw [if_neg (by simpa using hc), if_neg hc]
    exact ⟨self, [], n, rfl, spare_nil n, rfl, rfl, rfl, rfl⟩

end Ends

/-! ## What a move leaves -/

/-- The workspaces after a move, between new ones, as `clean_up_workspaces` finds them. -/
structure Rearranged (mon mon' : Monitor Id) (oldIdx newIdx : ℕ)
    (top bottom : List (Workspace Id)) : Prop where
  workspaces : mon'.workspaces = top ++ Vec.moveTo mon.workspaces oldIdx newIdx ++ bottom
  topLength : top.length = if mon.emptyAboveFirst = true ∧ min oldIdx newIdx = 0 then 1 else 0
  bottomLength : bottom.length = if max oldIdx newIdx + 1 = mon.workspaces.length then 1 else 0
  unused : ∀ ws ∈ top ++ bottom, ws.hasWindowsOrName = false
  fresh : ∀ ws ∈ top ++ bottom, ∀ ws' ∈ mon.workspaces, ws'.id ≠ ws.id
  ids : (mon'.workspaces.map (·.id)).Nodup
  options : mon'.options = mon.options

section Moved

variable {self self' : Monitor Id} {oldIdx newIdx : ℕ} {top bottom : List (Workspace Id)}
  {nextId : WorkspaceId}

section

variable (h : self.Rearranged self' oldIdx newIdx top bottom)
include h

theorem Rearranged.length (hnew : newIdx < self.workspaces.length) :
    self'.workspaces.length = top.length + self.workspaces.length + bottom.length := by
  rw [h.workspaces, length_append, length_append, length_moveTo hnew]

/-- Where the workspaces are. -/
theorem Rearranged.getElem? (hold : oldIdx < self.workspaces.length)
    (hnew : newIdx < self.workspaces.length) {k : ℕ} (hk : k < self.workspaces.length) :
    self'.workspaces[top.length + Vec.movedIdx oldIdx newIdx k]? = self.workspaces[k]? := by
  have hlt : Vec.movedIdx oldIdx newIdx k < self.workspaces.length := by
    unfold Vec.movedIdx
    split_ifs <;> omega
  rw [h.workspaces, append_assoc, List.getElem?_append_right (Nat.le_add_right _ _),
    Nat.add_sub_cancel_left, List.getElem?_append_left (by rwa [length_moveTo hnew]),
    Vec.getElem?_moveTo hold hnew]

theorem Rearranged.mem (hnew : newIdx < self.workspaces.length) {ws : Workspace Id} :
    ws ∈ self'.workspaces ↔ ws ∈ top ++ bottom ∨ ws ∈ self.workspaces := by
  rw [h.workspaces]
  simp only [mem_append, (moveTo_perm hnew).mem_iff]
  tauto

/-- The first workspace is empty, where there is to be an empty one. -/
theorem Rearranged.first (hwf : self.WellFormed nextId) (hold : oldIdx < self.workspaces.length)
    (hnew : newIdx < self.workspaces.length) (habove : self.emptyAboveFirst = true) :
    ∀ ws ∈ self'.workspaces.head?, ws.hasWindowsOrName = false := by
  intro ws hws
  have htop := h.topLength
  by_cases hmin : min oldIdx newIdx = 0
  · rw [if_pos ⟨habove, hmin⟩, length_eq_one_iff] at htop
    obtain ⟨t, rfl⟩ := htop
    rw [h.workspaces] at hws
    cases hws
    exact h.unused ws (by simp)
  · rw [if_neg fun hboth => hmin hboth.2, length_eq_zero_iff] at htop
    have hzero : Vec.movedIdx oldIdx newIdx 0 = 0 := by
      unfold Vec.movedIdx
      split_ifs <;> omega
    have hget := h.getElem? hold hnew (k := 0) (by omega)
    rw [hzero, htop] at hget
    refine hwf.first habove ws ?_
    rw [List.head?_eq_getElem?] at hws ⊢
    exact hget ▸ hws

theorem Rearranged.last (hwf : self.WellFormed nextId) (hold : oldIdx < self.workspaces.length)
    (hnew : newIdx < self.workspaces.length) :
    ∀ ws ∈ self'.workspaces.getLast?, ws.hasWindowsOrName = false := by
  intro ws hws
  have hbottom := h.bottomLength
  by_cases hmax : max oldIdx newIdx + 1 = self.workspaces.length
  · rw [if_pos hmax, length_eq_one_iff] at hbottom
    obtain ⟨b, rfl⟩ := hbottom
    rw [h.workspaces, List.getLast?_append] at hws
    have heq : b = ws := by simpa using hws
    exact h.unused ws (by simp [heq])
  · rw [if_neg hmax] at hbottom
    have hend : Vec.movedIdx oldIdx newIdx (self.workspaces.length - 1) =
        self.workspaces.length - 1 := by
      unfold Vec.movedIdx
      split_ifs <;> omega
    have hget := h.getElem? hold hnew (k := self.workspaces.length - 1) (by omega)
    have hlen := h.length hnew
    rw [hend, show top.length + (self.workspaces.length - 1) = self'.workspaces.length - 1 by
      omega] at hget
    refine hwf.last ws ?_
    rw [List.getLast?_eq_getElem?] at hws ⊢
    exact hget ▸ hws

/-- The new workspaces are left out of the order. -/
theorem Rearranged.filter_keeps {act : Workspace Id} (hact : act ∈ self.workspaces) :
    self'.workspaces.filter (fun ws => ws.hasWindowsOrName || ws.id = act.id) =
      (Vec.moveTo self.workspaces oldIdx newIdx).filter
        (fun ws => ws.hasWindowsOrName || ws.id = act.id) := by
  have hnone {spare : List (Workspace Id)} (hin : ∀ ws ∈ spare, ws ∈ top ++ bottom) :
      spare.filter (fun ws => ws.hasWindowsOrName || ws.id = act.id) = [] := by
    rw [filter_eq_nil_iff]
    intro ws hws
    have hid : ws.id ≠ act.id := (h.fresh ws (hin ws hws) act hact).symm
    rw [h.unused ws (hin ws hws)]
    simpa using hid
  rw [h.workspaces, filter_append, filter_append, hnone fun ws hws => mem_append_left _ hws,
    hnone fun ws hws => mem_append_right _ hws, nil_append, append_nil]

/-- The workspaces are all unused when they were before. -/
theorem Rearranged.forall_unused (hnew : newIdx < self.workspaces.length) :
    (∀ ws ∈ self'.workspaces, ws.hasWindowsOrName = false) ↔
      ∀ ws ∈ self.workspaces, ws.hasWindowsOrName = false := by
  constructor
  · exact fun hall ws hws => hall ws ((h.mem hnew).mpr (.inr hws))
  · intro hall ws hws
    rcases (h.mem hnew).mp hws with hws | hws
    · exact h.unused ws hws
    · exact hall ws hws

/-- **What the clean-up after a move leaves**: the focus and the order are kept where the active
    index is that of the workspace that was active, and where this is not one too many. -/
theorem Rearranged.cleanUp (hwf : self.WellFormed nextId) (hold : oldIdx < self.workspaces.length)
    (hnew : newIdx < self.workspaces.length) (hne : oldIdx ≠ newIdx)
    (hactive : self'.activeWorkspaceIdx < self'.workspaces.length)
    (hlast : self'.activeWorkspaceIdx ≠
        top.length + Vec.movedIdx oldIdx newIdx self.activeWorkspaceIdx →
      self'.activeWorkspaceIdx + 1 ≠ self'.workspaces.length) :
    ∃ self'', self'.stopSwitchAndCleanUp = some self'' ∧
      (self.Reordered self'' oldIdx newIdx ↔
        self'.activeWorkspaceIdx = top.length + Vec.movedIdx oldIdx newIdx self.activeWorkspaceIdx ∧
          ¬ (self.emptyAboveFirst = true ∧ self.MergesLast oldIdx newIdx)) := by
  obtain ⟨act, hact⟩ : ∃ act, self.activeWorkspace = some act :=
    ⟨_, List.getElem?_eq_getElem hwf.active⟩
  obtain ⟨act', hact'⟩ : ∃ act', self'.activeWorkspace = some act' :=
    ⟨_, List.getElem?_eq_getElem hactive⟩
  have hlen := h.length hnew
  have hmoved : self'.workspaces[top.length + Vec.movedIdx oldIdx newIdx
      self.activeWorkspaceIdx]? = some act := (h.getElem? hold hnew hwf.active).trans hact
  have habove : self'.emptyAboveFirst = self.emptyAboveFirst := by
    unfold emptyAboveFirst
    rw [h.options]
  have hclamped : self.clampedIdx newIdx = newIdx := by
    unfold clampedIdx
    omega
  have hkeeps : self.keeps = fun ws => ws.hasWindowsOrName || ws.id = act.id := by
    funext ws
    unfold keeps
    rw [hact, any_some]
    simp only [eq_comm]
  obtain ⟨self'', hrun, hmerged, hleft⟩ := cleanUpWorkspaces_of_ends
    { self' with workspaceSwitch := none } rfl (by dsimp only; omega)
    (fun hab => h.first hwf hold hnew (habove ▸ hab)) (h.last hwf hold hnew) h.ids hact'
  refine ⟨self'', hrun, ?_⟩
  change self'.MergesActive → _ at hmerged
  change ¬ self'.MergesActive → _ at hleft
  unfold MergesActive at hmerged hleft
  rw [habove, h.forall_unused hnew] at hmerged hleft
  by_cases hidx : self'.activeWorkspaceIdx =
      top.length + Vec.movedIdx oldIdx newIdx self.activeWorkspaceIdx
  · have heq : act' = act := by
      have hboth := hact'
      unfold activeWorkspace at hboth
      rw [hidx, hmoved] at hboth
      exact (some.inj hboth).symm
    subst heq
    have hmerges : self'.activeWorkspaceIdx + 1 = self'.workspaces.length ↔
        self.activeWorkspaceIdx + 1 = self.workspaces.length ∧
          max oldIdx newIdx + 1 < self.workspaces.length := by
      have hbottom := h.bottomLength
      have hlt := hwf.active
      rw [hidx, hlen]
      unfold Vec.movedIdx
      split_ifs at hbottom ⊢ <;> omega
    rw [hmerges, and_assoc] at hmerged hleft
    change self.emptyAboveFirst = true ∧ self.MergesLast oldIdx newIdx → _ at hmerged
    change ¬ (self.emptyAboveFirst = true ∧ self.MergesLast oldIdx newIdx) → _ at hleft
    by_cases hmerging : self.emptyAboveFirst = true ∧ self.MergesLast oldIdx newIdx
    · -- The active workspace is the one too many.
      refine iff_of_false (fun hreordered => ?_) fun hboth => hboth.2 hmerging
      have hfirst : self'.workspaces[0]? = some act' := by
        rw [← List.head?_eq_getElem?, ← hreordered.focus.trans hact]
        exact (hmerged hmerging).symm
      have hzero := id_inj h.ids hact' hfirst rfl
      have hlast' := hmerges.mpr ⟨hmerging.2.1, hmerging.2.2.1⟩
      omega
    · obtain ⟨hfocus, horder⟩ := hleft hmerging
      refine iff_of_true ⟨hfocus.trans hact.symm, ?_⟩ ⟨hidx, hmerging⟩
      rw [hclamped, hkeeps, horder]
      exact h.filter_keeps (mem_of_getElem? hact)
  · -- Another workspace is active.
    have hfocus := (hleft fun hboth => hlast hidx hboth.2.1).1
    refine iff_of_false (fun hreordered => hidx ?_) fun hboth => hidx hboth.1
    have hsame : some act' = some act := hfocus.symm.trans (hreordered.focus.trans hact)
    exact id_inj h.ids hact' hmoved (congrArg (·.id) (some.inj hsame))

end

/-- **The empty workspaces at the ends** that a move makes up for. -/
theorem addEnds_spec (oldIdx newIdx : ℕ) (atBottom atTop : Bool)
    (geometry : Output → OutputGeometry) (hwf : self.WellFormed nextId)
    (hnew : newIdx < self.workspaces.length)
    (hatBottom : atBottom = true ↔ max oldIdx newIdx + 1 = self.workspaces.length)
    (hatTop : atTop = true ↔ min oldIdx newIdx = 0) :
    ∃ self₁ n₁ self₂ n₂ top bottom,
      ((({ self with workspaces := Vec.moveTo self.workspaces oldIdx newIdx } :
        Monitor Id).bottomIf atBottom).run geometry).run nextId = some (self₁, n₁) ∧
      ((self₁.topIf atTop).run geometry).run n₁ = some (self₂, n₂) ∧
      self.Rearranged self₂ oldIdx newIdx top bottom ∧
      self₁.activeWorkspaceIdx = self.activeWorkspaceIdx ∧
      self₁.shiftedIdx atTop newIdx = newIdx + top.length ∧
      self₂.activeWorkspaceIdx = self.activeWorkspaceIdx + top.length := by
  set moved : Monitor Id := { self with workspaces := Vec.moveTo self.workspaces oldIdx newIdx }
    with hmoved
  have hperm : (Vec.moveTo self.workspaces oldIdx newIdx).Perm self.workspaces :=
    moveTo_perm hnew
  have hactive : moved.activeWorkspaceIdx < moved.workspaces.length := by
    rw [hmoved, hperm.length_eq]
    exact hwf.active
  obtain ⟨self₁, bottom, n₁, hrun₁, hbottom, hws₁, hactive₁, hoptions₁, -⟩ :=
    bottomIf_spec moved geometry nextId hactive atBottom
  obtain ⟨self₂, top, n₂, hrun₂, htop, hws₂, hactive₂, hoptions₂, -⟩ :=
    topIf_spec self₁ geometry n₁ atTop
  have habove : self₁.emptyAboveFirst = self.emptyAboveFirst := by
    unfold emptyAboveFirst
    rw [hoptions₁]
  refine ⟨self₁, n₁, self₂, n₂, top, bottom, hrun₁, hrun₂, ?_, hactive₁, ?_, ?_⟩
  · have hws : self₂.workspaces = top ++ Vec.moveTo self.workspaces oldIdx newIdx ++ bottom := by
      rw [hws₂, hws₁, append_assoc]
    have hold {ws : Workspace Id} (hin : ws ∈ Vec.moveTo self.workspaces oldIdx newIdx) :
        ws.id < nextId := hwf.fresh ws (hperm.mem_iff.mp hin)
    have hids : ((Vec.moveTo self.workspaces oldIdx newIdx).map (·.id)).Nodup :=
      (hperm.map _).nodup_iff.mpr hwf.ids
    refine ⟨hws, ?_, ?_, fun ws hin => ?_, fun ws hin ws' hin' => ?_, ?_, hoptions₂.trans hoptions₁⟩
    · rw [htop.length, habove]
      simp only [hatTop]
    · rw [hbottom.length]
      simp only [hatBottom]
    · rcases mem_append.mp hin with hin | hin
      · exact htop.unused ws hin
      · exact hbottom.unused ws hin
    · have hlt := hwf.fresh ws' hin'
      have hle := hbottom.le
      rcases mem_append.mp hin with hin | hin
      · exact (hlt.trans_le (hle.trans (htop.fresh ws hin).1)).ne
      · exact (hlt.trans_le (hbottom.fresh ws hin).1).ne
    · rw [hws]
      exact nodup_spares hbottom htop hids fun ws hin => hold hin
  · exact htop.shiftedIdx_eq newIdx
  · rw [hactive₂, hactive₁]

variable {active : ℕ}

/-- The index that becomes active is that of the workspace that was active, unless a new workspace
    at the top has mixed up the indices. -/
theorem activeAfterMove_eq {shift : ℕ} (hshift : shift = 0 ∨ shift = 1 ∧ min oldIdx newIdx = 0) :
    activeAfterMove (active + shift) oldIdx (newIdx + shift) =
        shift + Vec.movedIdx oldIdx newIdx active ↔
      ¬ (shift = 1 ∧ (oldIdx = 0 ∧ active = 0 ∨
        newIdx = 0 ∧ (active = oldIdx ∨ active + 1 = oldIdx))) := by
  unfold activeAfterMove Vec.movedIdx
  split_ifs <;> omega

/-- In any case it is in range, and where it is mixed up it is not the last. -/
theorem activeAfterMove_lt {shift len : ℕ} (hactive : active < len) (hold : oldIdx < len)
    (hnew : newIdx < len) :
    activeAfterMove (active + shift) oldIdx (newIdx + shift) < shift + len := by
  unfold activeAfterMove
  split_ifs <;> omega

theorem activeAfterMove_ne_last {shift len extra : ℕ} (hactive : active < len) (hold : oldIdx < len)
    (hnew : newIdx < len) (hshift : shift = 0 ∨ shift = 1 ∧ min oldIdx newIdx = 0)
    (hextra : extra = if max oldIdx newIdx + 1 = len then 1 else 0)
    (hmixed : activeAfterMove (active + shift) oldIdx (newIdx + shift) ≠
      shift + Vec.movedIdx oldIdx newIdx active) :
    activeAfterMove (active + shift) oldIdx (newIdx + shift) + 1 ≠ shift + len + extra := by
  have hwhen := mt (activeAfterMove_eq hshift).mpr hmixed
  unfold activeAfterMove
  split_ifs at hextra ⊢ <;> omega

variable (geometry : Output → OutputGeometry)

/-- **A move to an index**: it keeps the focus and the order, unless it loses the focus. -/
theorem moveWorkspaceToIdx_spec (hwf : self.WellFormed nextId) (oldIdx newIdx : ℕ) :
    ∃ self' nextId', ((self.moveWorkspaceToIdx oldIdx newIdx).run geometry).run nextId =
        some (self', nextId') ∧
      (self.Reordered self' oldIdx newIdx ↔ ¬ self.LosesFocus oldIdx newIdx) := by
  unfold moveWorkspaceToIdx
  by_cases hold : self.workspaces.length ≤ oldIdx
  · rw [if_pos hold]
    refine ⟨self, nextId, rfl, iff_of_true ⟨rfl, ?_⟩ fun hloses => ?_⟩
    · rw [moveTo_of_le hold]
    · exact absurd hloses.2.1 (not_lt.mpr hold)
  · rw [if_neg hold]
    rw [not_le] at hold
    change ∃ self' nextId', ((if oldIdx = self.clampedIdx newIdx then _ else _ :
      LayoutM (Monitor Id)).run geometry).run nextId = some (self', nextId') ∧ _
    by_cases hsame : oldIdx = self.clampedIdx newIdx
    · rw [if_pos hsame]
      refine ⟨self, nextId, rfl, iff_of_true ⟨rfl, ?_⟩ fun hloses => hloses.2.2.1 hsame⟩
      rw [← hsame, moveTo_self]
    · rw [if_neg hsame]
      have hnew : self.clampedIdx newIdx < self.workspaces.length := by
        unfold clampedIdx
        omega
      obtain ⟨x, hx⟩ : ∃ x, self.workspaces[oldIdx]? = some x :=
        ⟨_, List.getElem?_eq_getElem hold⟩
      have hremove : Vec.removeAt self.workspaces oldIdx =
          some (x, self.workspaces.eraseIdx oldIdx) := by
        rw [Vec.removeAt, hx, map_some]
      have hinsert : Vec.insertAt (self.workspaces.eraseIdx oldIdx) (self.clampedIdx newIdx) x =
          some (Vec.moveTo self.workspaces oldIdx (self.clampedIdx newIdx)) := by
        have hlen := length_eraseIdx_of_lt hold
        rw [Vec.insertAt, if_pos (by omega), Vec.moveTo, hx]
      obtain ⟨self₁, n₁, self₂, n₂, top, bottom, hrun₁, hrun₂, hends, hactive₁, hshifted, hactive₂⟩ :=
        addEnds_spec oldIdx (self.clampedIdx newIdx)
          (max oldIdx (self.clampedIdx newIdx) + 1 =
            (Vec.moveTo self.workspaces oldIdx (self.clampedIdx newIdx)).length)
          (min oldIdx (self.clampedIdx newIdx) = 0) geometry hwf hnew
          (by rw [length_moveTo hnew, decide_eq_true_iff]) decide_eq_true_iff
      have hreordered {self' : Monitor Id} :
          self.Reordered self' oldIdx (self.clampedIdx newIdx) ↔
            self.Reordered self' oldIdx newIdx := by
        have hclamped : self.clampedIdx (self.clampedIdx newIdx) = self.clampedIdx newIdx := by
          unfold clampedIdx
          omega
        exact ⟨fun h => ⟨h.focus, hclamped ▸ h.order⟩, fun h => ⟨h.focus, hclamped.symm ▸ h.order⟩⟩
      have hshift : top.length = 0 ∨ top.length = 1 ∧ min oldIdx (self.clampedIdx newIdx) = 0 := by
        rw [hends.topLength]
        split_ifs with hc
        · exact .inr ⟨rfl, hc.2⟩
        · exact .inl rfl
      have hlen := hends.length hnew
      have hactive : activeAfterMove self₂.activeWorkspaceIdx oldIdx (self₁.shiftedIdx
          (min oldIdx (self.clampedIdx newIdx) = 0) (self.clampedIdx newIdx)) =
            activeAfterMove (self.activeWorkspaceIdx + top.length) oldIdx
              (self.clampedIdx newIdx + top.length) := by
        rw [hactive₂, hshifted]
      have hlt : activeAfterMove (self.activeWorkspaceIdx + top.length) oldIdx
          (self.clampedIdx newIdx + top.length) < top.length + self.workspaces.length :=
        activeAfterMove_lt hwf.active hold hnew
      have hne := activeAfterMove_ne_last hwf.active hold hnew hshift hends.bottomLength
      have hmoved : self.Rearranged { self₂ with
          activeWorkspaceIdx := activeAfterMove self₂.activeWorkspaceIdx oldIdx
            (self₁.shiftedIdx (min oldIdx (self.clampedIdx newIdx) = 0) (self.clampedIdx newIdx)) } oldIdx (self.clampedIdx newIdx) top bottom :=
        ⟨hends.workspaces, hends.topLength, hends.bottomLength, hends.unused, hends.fresh,
          hends.ids, hends.options⟩
      obtain ⟨self', hrun, hiff⟩ := hmoved.cleanUp hwf hold hnew hsame
        (by dsimp only; rw [hactive]; omega) (by dsimp only; rw [hactive, hlen]; exact hne)
      refine ⟨self', n₂, ?_, ?_⟩
      · refine (run_lift_bind hremove).trans ((run_lift_bind hinsert).trans ?_)
        exact (run_bind hrun₁).trans ((run_bind hrun₂).trans (run_lift hrun))
      · rw [← hreordered, hiff]
        rw [hactive, activeAfterMove_eq hshift]
        have htop : top.length = 1 ↔
            self.emptyAboveFirst = true ∧ min oldIdx (self.clampedIdx newIdx) = 0 := by
          by_cases hc : self.emptyAboveFirst = true ∧ min oldIdx (self.clampedIdx newIdx) = 0
          · exact iff_of_true (hends.topLength.trans (if_pos hc)) hc
          · refine iff_of_false (fun hone => ?_) hc
            rw [hends.topLength, if_neg hc] at hone
            cases hone
        rw [htop, ← not_or]
        refine not_congr ⟨?_, ?_⟩
        · rintro (⟨⟨habove, -⟩, hmixes⟩ | ⟨habove, hmerges⟩)
          · exact ⟨habove, hold, hsame, .inl hmixes⟩
          · exact ⟨habove, hold, hsame, .inr hmerges⟩
        · rintro ⟨habove, -, -, hmixes | hmerges⟩
          · refine .inl ⟨⟨habove, ?_⟩, hmixes⟩
            rcases hmixes with ⟨hzero, -⟩ | ⟨hzero, -⟩
            · rw [hzero, zero_min]
            · rw [hzero, min_zero]
          · exact .inr ⟨habove, hmerges⟩

/-- Activating a workspace moves the focus, and nothing else that matters here. -/
theorem activateWorkspace_spec {mon : Monitor Id}
    (hactive : mon.activeWorkspaceIdx < mon.workspaces.length) (idx : ℕ) :
    ∃ mon', mon.activateWorkspace idx = some mon' ∧ mon'.workspaces = mon.workspaces ∧
      mon'.activeWorkspaceIdx = idx ∧ mon'.options = mon.options ∧ mon'.output = mon.output := by
  unfold activateWorkspace
  rw [List.getElem?_eq_getElem hactive]
  cases mon.workspaceSwitch with
  | none =>
    split_ifs <;> exact ⟨_, rfl, rfl, rfl, rfl, rfl⟩
  | some switch =>
    cases switch <;> dsimp only [bind_eq_bind, bind_some] <;> split_ifs <;>
      exact ⟨_, rfl, rfl, rfl, rfl, rfl⟩

/-- The end of a move down or up: the workspace that has moved is active. -/
theorem followMoved_spec (h : self.Rearranged self' self.activeWorkspaceIdx newIdx top bottom)
    (hwf : self.WellFormed nextId) (hnew : newIdx < self.workspaces.length)
    (hne : self.activeWorkspaceIdx ≠ newIdx)
    (hactive : self'.activeWorkspaceIdx < self'.workspaces.length) :
    ∃ self'', self'.followMoved (newIdx + top.length) = some self'' ∧
      self.Reordered self'' self.activeWorkspaceIdx newIdx := by
  have hlen := h.length hnew
  have hmovedIdx : Vec.movedIdx self.activeWorkspaceIdx newIdx self.activeWorkspaceIdx = newIdx :=
    if_pos rfl
  obtain ⟨mon, hactivate, hws, hidx, hoptions, -⟩ :=
    activateWorkspace_spec hactive (newIdx + top.length)
  have hmoved : self.Rearranged { mon with previousWorkspaceId := self'.previousWorkspaceId }
      self.activeWorkspaceIdx newIdx top bottom :=
    ⟨hws.trans h.workspaces, h.topLength, h.bottomLength, h.unused, h.fresh, hws ▸ h.ids,
      hoptions.trans h.options⟩
  obtain ⟨self'', hrun, hiff⟩ := hmoved.cleanUp hwf hwf.active hnew hne
    (by dsimp only; rw [hidx, hws]; omega) (fun hmixed => by
      rw [hidx, hmovedIdx, add_comm] at hmixed
      exact absurd rfl hmixed)
  refine ⟨self'', ?_, hiff.mpr ⟨?_, fun hmerges => ?_⟩⟩
  · unfold followMoved
    rw [hactivate]
    exact hrun
  · rw [hidx, hmovedIdx, add_comm]
  · -- The last workspace does not stay the last one.
    obtain ⟨-, hlast, hmax, -⟩ := hmerges
    omega

theorem moveWorkspaceDown_spec (hwf : self.WellFormed nextId) :
    ∃ self' nextId', ((self.moveWorkspaceDown).run geometry).run nextId = some (self', nextId') ∧
      self.Reordered self' self.activeWorkspaceIdx (self.activeWorkspaceIdx + 1) := by
  have hactive := hwf.active
  have hclamped : self.clampedIdx (self.activeWorkspaceIdx + 1) = self.idxDown := rfl
  unfold moveWorkspaceDown
  by_cases hlast : self.idxDown = self.activeWorkspaceIdx
  · rw [if_pos hlast]
    refine ⟨self, nextId, rfl, rfl, ?_⟩
    rw [hclamped, hlast, moveTo_self]
  · rw [if_neg hlast]
    have hdown : self.idxDown = self.activeWorkspaceIdx + 1 ∧
        self.activeWorkspaceIdx + 1 < self.workspaces.length := by
      unfold idxDown at hlast ⊢
      omega
    obtain ⟨hidx, hnew⟩ := hdown
    rw [hidx]
    have hswap := (swap_neighbours hnew).1
    obtain ⟨self₁, n₁, self₂, n₂, top, bottom, hrun₁, hrun₂, hends, hactive₁, hshifted, hactive₂⟩ :=
      addEnds_spec self.activeWorkspaceIdx (self.activeWorkspaceIdx + 1)
        (self.activeWorkspaceIdx + 1 + 1 = (Vec.moveTo self.workspaces self.activeWorkspaceIdx
          (self.activeWorkspaceIdx + 1)).length)
        (self.activeWorkspaceIdx = 0) geometry hwf hnew
        (by rw [length_moveTo hnew, decide_eq_true_iff]; omega)
        (by rw [decide_eq_true_iff]; omega)
    obtain ⟨self', hrun, hreordered⟩ := followMoved_spec hends hwf hnew (by omega)
      (by rw [hactive₂, hends.length hnew]; omega)
    refine ⟨self', n₂, ?_, hreordered⟩
    rw [← hshifted] at hrun
    refine (run_lift_bind hswap).trans ((run_bind hrun₁).trans ((run_bind hrun₂).trans ?_))
    exact run_lift hrun

theorem moveWorkspaceUp_spec (hwf : self.WellFormed nextId) :
    ∃ self' nextId', ((self.moveWorkspaceUp).run geometry).run nextId = some (self', nextId') ∧
      self.Reordered self' self.activeWorkspaceIdx (self.activeWorkspaceIdx - 1) := by
  have hactive := hwf.active
  have hclamped : self.clampedIdx (self.activeWorkspaceIdx - 1) = self.idxUp := by
    unfold clampedIdx idxUp
    omega
  unfold moveWorkspaceUp
  by_cases hfirst : self.idxUp = self.activeWorkspaceIdx
  · rw [if_pos hfirst]
    refine ⟨self, nextId, rfl, rfl, ?_⟩
    rw [hclamped, hfirst, moveTo_self]
  · rw [if_neg hfirst]
    obtain ⟨i, hi⟩ : ∃ i, self.activeWorkspaceIdx = i + 1 :=
      ⟨self.activeWorkspaceIdx - 1, by unfold idxUp at hfirst; omega⟩
    have hidx : self.idxUp = i := by
      unfold idxUp
      omega
    have hswap := (swap_neighbours (hi ▸ hactive)).2
    obtain ⟨self₁, n₁, self₂, n₂, top, bottom, hrun₁, hrun₂, hends, hactive₁, hshifted, hactive₂⟩ :=
      addEnds_spec self.activeWorkspaceIdx i
        (self.activeWorkspaceIdx + 1 =
          (Vec.moveTo self.workspaces self.activeWorkspaceIdx i).length)
        (i = 0) geometry hwf (by omega)
        (by rw [length_moveTo (by omega), decide_eq_true_iff]; omega)
        (by rw [decide_eq_true_iff]; omega)
    obtain ⟨self', hrun, hreordered⟩ := followMoved_spec hends hwf (by omega) (by omega)
      (by rw [hactive₂, hends.length (by omega)]; omega)
    have hrequested : self.activeWorkspaceIdx - 1 = i := by omega
    rw [hidx, hrequested]
    refine ⟨self', n₂, ?_, hreordered⟩
    rw [← hshifted] at hrun
    rw [← hi] at hswap
    refine (run_lift_bind hswap).trans ((run_bind hrun₁).trans ((run_bind hrun₂).trans ?_))
    exact run_lift hrun

end Moved

/-- **Reordering workspaces keeps the focus**: moves down and up always do, and a move to an index
    exactly when it does not lose it. -/
theorem moveWorkspaces_reorder {self : Monitor Id} {nextId : WorkspaceId}
    (hwf : self.WellFormed nextId) (geometry : Output → OutputGeometry) :
    (∀ oldIdx newIdx, ∃ self' nextId',
      ((self.moveWorkspaceToIdx oldIdx newIdx).run geometry).run nextId = some (self', nextId') ∧
        (self.Reordered self' oldIdx newIdx ↔ ¬ self.LosesFocus oldIdx newIdx)) ∧
    (∃ self' nextId', ((self.moveWorkspaceDown).run geometry).run nextId = some (self', nextId') ∧
      self.Reordered self' self.activeWorkspaceIdx (self.activeWorkspaceIdx + 1)) ∧
    ∃ self' nextId', ((self.moveWorkspaceUp).run geometry).run nextId = some (self', nextId') ∧
      self.Reordered self' self.activeWorkspaceIdx (self.activeWorkspaceIdx - 1) :=
  ⟨moveWorkspaceToIdx_spec geometry hwf, moveWorkspaceDown_spec geometry hwf,
    moveWorkspaceUp_spec geometry hwf⟩

/-! ## A move that loses the focus -/

/-- An output. -/
def someOutput : Output := ⟨0, "DP-1", none, none, none⟩

/-- Its size. -/
def someGeometry (_ : Output) : OutputGeometry := ⟨1, ⟨1280, 720⟩, ⟨0, 0, ⟨1280, 720⟩⟩⟩

/-- An empty workspace is kept above the first. -/
def aboveFirst : Options := { Options.default with emptyWorkspaceAboveFirst := true }

/-- A workspace of the output, with a name or without. -/
def someWorkspace (id : WorkspaceId) (name : Option String) : Workspace ℕ :=
  { Workspace.new id someGeometry someOutput aboveFirst with name := name }

/-- Two named workspaces, the second of which is active, between the empty ones. -/
def secondActive : Monitor ℕ where
  output := someOutput
  workspaces := [someWorkspace 0 none, someWorkspace 1 (some "web"), someWorkspace 2 (some "mail"),
    someWorkspace 3 none]
  activeWorkspaceIdx := 2
  previousWorkspaceId := none
  workspaceSwitch := none
  overviewOpen := false
  baseOptions := aboveFirst
  options := aboveFirst
  layoutConfig := none

theorem secondActive_wellFormed : secondActive.WellFormed 4 where
  active := by decide
  last := fun ws hws => by
    cases hws
    rfl
  first := fun _ ws hws => by
    cases hws
    rfl
  ends := fun _ => by decide
  used := fun _ idx ws hget hstart hlast hactive => by
    match idx, hget, hstart, hlast, hactive with
    | 0, _, hstart, _, _ => exact absurd hstart (by decide)
    | 1, hget, _, _, _ =>
      cases hget
      rfl
    | 2, _, _, _, hactive => exact absurd rfl hactive
    | n + 3, _, _, hlast, _ => exact absurd hlast (by change ¬ n + 3 + 1 < 4; omega)
  ids := by decide
  fresh := by decide

theorem moveWorkspaces_reorder_secondActive :
    (∀ oldIdx newIdx, ∃ self' nextId',
      ((secondActive.moveWorkspaceToIdx oldIdx newIdx).run someGeometry).run 4 =
          some (self', nextId') ∧
        (secondActive.Reordered self' oldIdx newIdx ↔ ¬ secondActive.LosesFocus oldIdx newIdx)) ∧
    (∃ self' nextId', ((secondActive.moveWorkspaceDown).run someGeometry).run 4 =
        some (self', nextId') ∧ secondActive.Reordered self' 2 3) ∧
    ∃ self' nextId', ((secondActive.moveWorkspaceUp).run someGeometry).run 4 =
        some (self', nextId') ∧ secondActive.Reordered self' 2 1 :=
  moveWorkspaces_reorder secondActive_wellFormed someGeometry

/-- **Moving the active workspace to the top loses the focus**: "web" is active afterwards, and
    not "mail". -/
theorem toFirst_losesFocus :
    ∃ self' nextId', ((secondActive.moveWorkspaceToIdx 2 0).run someGeometry).run 4 =
        some (self', nextId') ∧
      self'.activeWorkspace = some (someWorkspace 1 (some "web")) ∧
      ¬ secondActive.Reordered self' 2 0 := by
  obtain ⟨self', nextId', hrun, hactive⟩ : ∃ self' nextId',
      ((secondActive.moveWorkspaceToIdx 2 0).run someGeometry).run 4 = some (self', nextId') ∧
        self'.activeWorkspace = some (someWorkspace 1 (some "web")) := ⟨_, _, rfl, rfl⟩
  refine ⟨self', nextId', hrun, hactive, fun h => ?_⟩
  have hfocus := h.focus
  rw [hactive] at hfocus
  have hid := congrArg (Option.map (·.id)) hfocus
  exact absurd hid (by decide)

end Tiri.Layout.Monitor
