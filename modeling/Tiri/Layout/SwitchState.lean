import Tiri.Layout.MonitorMoves
import Tiri.Lib.Run

/-!
# The workspace switch stays in range

A switch between workspaces remembers indices: an animation the one it leads to, a gesture the one
in its center.  Workspaces come and go meanwhile.

Results:
* `Op.run_kept`: what an operation of a monitor keeps;
* `switch_in_range`: in every run of such operations the switch is in range, gestures never clamp to
  bounds that are the wrong way round, and no workspace goes while a switch stays.
-/

namespace Tiri.Layout

open Option List Nat Ensures Vec Yields

/-! ## Gestures, and what they clamp -/

/-- `f64::clamp`: aborts on bounds that are the wrong way round. -/
def f64Clamp (x min max : ℚ) : Option ℚ := if max < min then none else some (clamp x min max)

/-- `struct RubberBand` (`rubber_band.rs`). -/
structure RubberBand where
  stiffness : ℚ
  limit : ℚ

namespace RubberBand

def band (self : RubberBand) (x : ℚ) : ℚ :=
  (1 - 1 / (x * self.stiffness / self.limit + 1)) * self.limit

def derivative (self : RubberBand) (x : ℚ) : ℚ :=
  self.stiffness * self.limit * self.limit / (self.stiffness * x + self.limit) ^ 2

def clamp (self : RubberBand) (min max x : ℚ) : Option ℚ := do
  let clamped ← f64Clamp x min max
  let sign : ℚ := if x < clamped then -1 else 1
  return clamped + sign * self.band |x - clamped|

def clampDerivative (self : RubberBand) (min max x : ℚ) : Option ℚ :=
  if min ≤ x ∧ x ≤ max then some 1
  else do
    let clamped ← f64Clamp x min max
    return self.derivative |x - clamped|

end RubberBand

/-- `WORKSPACE_GESTURE_RUBBER_BAND` (`monitor.rs`, lines 38–41), with its limit in the overview. -/
def workspaceGestureRubberBand (zoom : ℚ) : RubberBand := ⟨1 / 2, 5 / 100 / zoom⟩

/-- How far the pointer is in the scrolling zone, from -1 above to 1 below (`monitor.rs`, lines
    1896–1928). -/
def dndEdgeDelta (triggerHeight : ℚ) (geometry : OutputGeometry) (zoom x y : ℚ) : Option ℚ := do
  let width := geometry.viewSize.w * zoom
  let x := x - (geometry.viewSize.w - width) / 2
  let y := y - geometry.workingArea.y
  let height := geometry.workingArea.size.h
  let y ← f64Clamp y 0 height
  let triggerHeight ← f64Clamp triggerHeight 0 (height / 2)
  let delta : ℚ :=
    if x < 0 ∨ width ≤ x then 0
    else if y < triggerHeight then -(triggerHeight - y)
    else if height - y < triggerHeight then triggerHeight - (height - y)
    else 0
  return if triggerHeight < 1 / 100 then 0 else delta / triggerHeight

variable {Id : Type}

namespace Monitor

/-- `workspace_switch_gesture_update` (`monitor.rs`, lines 1832–1877): with the swipe so far, the
    fingers have reached `reached`. -/
def workspaceSwitchGestureUpdateTo (self : Monitor Id) (isTouchpad : Bool) (zoom reached : ℚ) :
    Option (Monitor Id × Option Bool) :=
  match self.workspaceSwitch with
  | some (.gesture gesture) =>
    if gesture.isTouchpad ≠ isTouchpad ∨ gesture.isDnd then some (self, none)
    else do
      let (min, max) := gesture.minMax self.workspaces.length
      let newIdx ← (workspaceGestureRubberBand zoom).clamp min max reached
      if gesture.currentIdx = newIdx then
        return (self, some false)
      return (self.workspaceSwitchGestureUpdate newIdx, some true)
  | _ => some (self, none)

/-- `dnd_scroll_gesture_scroll` (`monitor.rs`, lines 1879–1961): `waited` tells that the pointer has
    been in the zone for long enough, `reached` where the scrolling so far has led. -/
def dndScrollGestureScroll (self : Monitor Id) (triggerHeight : ℚ) (geometry : OutputGeometry)
    (zoom x y speed : ℚ) (waited : Bool) (reached : ℚ) : Option (Monitor Id × Bool) :=
  match self.workspaceSwitch with
  | some (.gesture gesture) =>
    -- Not a DnD scroll.
    if !gesture.isDnd then some (self, false)
    else do
      let delta ← dndEdgeDelta triggerHeight geometry zoom x y
      if delta * speed = 0 then
        return (self, false)
      if !waited then
        return (self, true)
      let (min, max) := gesture.minMax self.workspaces.length
      let clamped ← f64Clamp reached min max
      return (self.workspaceSwitchGestureUpdate clamped, true)
  | _ => some (self, false)

/-- The velocity that the animation at the end of a gesture starts with (`monitor.rs`, line 2007),
    from that of the fingers. -/
def gestureEndVelocity (self : Monitor Id) (gesture : WorkspaceSwitchGesture)
    (zoom velocity reached : ℚ) : Option ℚ := do
  let (min, max) := gesture.minMax self.workspaces.length
  let derivative ← (workspaceGestureRubberBand zoom).clampDerivative min max reached
  return velocity * derivative

end Monitor

/-! ## The bounds -/

variable {min max : ℚ} (x : ℚ)

theorem f64Clamp_of_le (h : min ≤ max) :
    f64Clamp x min max = some (clamp x min max) := if_neg (not_lt.mpr h)

variable (self : RubberBand)

theorem RubberBand.clamp_isSome (h : min ≤ max) : (self.clamp min max x).isSome := by
  unfold RubberBand.clamp
  rw [f64Clamp_of_le x h]
  rfl

theorem RubberBand.clampDerivative_isSome (h : min ≤ max) :
    (self.clampDerivative min max x).isSome := by
  unfold RubberBand.clampDerivative
  rw [f64Clamp_of_le x h]
  split_ifs <;> rfl

theorem dndEdgeDelta_isSome (triggerHeight : ℚ) {geometry : OutputGeometry}
    (h : 0 ≤ geometry.workingArea.size.h) (zoom x y : ℚ) :
    (dndEdgeDelta triggerHeight geometry zoom x y).isSome := by
  unfold dndEdgeDelta
  dsimp only
  rw [f64Clamp_of_le _ h, f64Clamp_of_le _ (by linarith)]
  rfl

variable {count : ℕ}

/-- A gesture around a workspace has a workspace to go to. -/
theorem WorkspaceSwitchGesture.minMax_le (self : WorkspaceSwitchGesture)
    (h : self.centerIdx < count) :
    (self.minMax count).1 ≤ (self.minMax count).2 ∧ (self.minMax count).2 < count := by
  unfold minMax
  split_ifs
  · omega
  · omega

/-- What is between two indices rounds to an index between them. -/
theorem round_clamp_le {min max : ℕ} (h : min ≤ max) (x : ℚ) :
    (roundHalfAway (clamp x min max)).toNat ≤ max := by
  have hlow : (0 : ℚ) ≤ clamp x min max := (cast_nonneg min).trans (le_max_left _ _)
  have hhigh : clamp x (min : ℚ) max ≤ max :=
    max_le (by exact_mod_cast h) (min_le_right _ _)
  unfold roundHalfAway
  rw [if_pos hlow, Int.toNat_le]
  have hlt : clamp x (min : ℚ) max + 1 / 2 < ((max : ℤ) + 1 : ℤ) := by
    push_cast
    linarith
  have := Int.floor_lt.mpr hlt
  omega

/-! ## Workspaces keep their id -/

namespace Workspace

/-- Whatever happens to a workspace, it stays the workspace it is. -/
def KeepsId (w : Workspace Id) (x : Option (Workspace Id)) : Prop := Ensures x fun w' => w'.id = w.id

variable (w : Workspace Id)

theorem updateFocus_id (fromFloating : Bool) :
    (w.updateFocusFloatingTilingAfterRemoving fromFloating).id = w.id := by
  unfold updateFocusFloatingTilingAfterRemoving
  split_ifs <;> rfl

theorem updateConfig_id (baseOptions : Options) : w.KeepsId (w.updateConfig baseOptions) := by
  refine Ensures.bind (P := fun w' => w'.id = w.id) ?_ fun w' hw' => of_pure hw'
  exact Ensures.self.bind fun scrolling _ => of_pure rfl

theorem setViewSize_id (geometry : OutputGeometry) : w.KeepsId (w.setViewSize geometry) := by
  refine Ensures.ite (fun _ => of_some rfl) fun _ => Ensures.ite (fun _ => ?_) fun _ => ?_
  · exact updateConfig_id _ _
  · exact Ensures.self.bind fun scrolling _ => of_pure rfl

theorem updateOutputSize_id (geometry : Output → OutputGeometry) :
    w.KeepsId (w.updateOutputSize geometry) :=
  Ensures.self.bind fun _ _ => setViewSize_id w _

variable (activate : Bool)

theorem addToScrolling_id (x : Option (ScrollingSpace Id)) :
    w.KeepsId (w.addToScrolling activate x) :=
  Ensures.self.bind fun _ _ => of_pure rfl

theorem addToFloating_id (x : Option (FloatingSpace Id)) : w.KeepsId (w.addToFloating activate x) :=
  Ensures.self.bind fun _ _ => of_pure rfl

variable [DecidableEq Id]

theorem addTile_id (tile : Tile Id) (target : WorkspaceAddWindowTarget Id)
    (activate : ActivateWindow) (width : ColumnWidth) (isFullWidth isFloating : Bool) :
    w.KeepsId (w.addTile tile target activate width isFullWidth isFloating) := by
  cases target with
  | auto => exact Ensures.ite (fun _ => addToFloating_id w _ _) fun _ => addToScrolling_id w _ _
  | newColumnAt colIdx => exact addToScrolling_id w _ _
  | nextTo nextTo =>
    refine Ensures.self.bind fun act _ => Ensures.ite (fun _ => Ensures.ite (fun _ => ?_) fun _ => ?_)
      fun _ => Ensures.ite (fun _ => ?_) fun _ => ?_
    · exact addToFloating_id w _ _
    · exact Ensures.self.bind fun _ _ => addToFloating_id w _ _
    · exact addToScrolling_id w _ _
    · exact addToScrolling_id w _ _

theorem removeTile_id (id : Id) (expected : Option ISize) :
    Ensures (w.removeTile id expected) fun p => p.2.id = w.id :=
  Ensures.ite (fun _ => Ensures.self.bind fun _ _ => of_pure (updateFocus_id _ _))
    fun _ => Ensures.self.bind fun _ _ => of_pure (updateFocus_id _ _)

theorem removeActiveTile_id (expected : Option ISize) :
    Ensures (w.removeActiveTile expected) fun p => p.2.id = w.id :=
  Ensures.ite
    (fun _ => Ensures.self.bind fun _ _ => Ensures.ite (fun _ => of_pure rfl)
      fun _ => of_pure (updateFocus_id _ _))
    fun _ => Ensures.self.bind fun _ _ => Ensures.ite (fun _ => of_pure rfl)
      fun _ => of_pure (updateFocus_id _ _)

theorem removeActiveColumn_id : Ensures w.removeActiveColumn fun p => p.2.id = w.id :=
  Ensures.ite (fun _ => of_some rfl)
    fun _ => Ensures.self.bind fun _ _ => Ensures.ite (fun _ => of_pure rfl)
      fun _ => of_pure (updateFocus_id _ _)

end Workspace

/-! ## What an operation keeps -/

/-- The switch leads to one of `count` workspaces. -/
def WorkspaceSwitch.InRange (count : ℕ) : WorkspaceSwitch → Prop
  | .animation target => ∃ idx : ℕ, idx < count ∧ target = idx
  | .gesture g => g.centerIdx < count

variable {switch : WorkspaceSwitch}

theorem WorkspaceSwitch.InRange.mono {count count' : ℕ} (h : switch.InRange count)
    (hle : count ≤ count') : switch.InRange count' := by
  cases switch with
  | animation target =>
    obtain ⟨idx, hidx, htarget⟩ := h
    exact ⟨idx, hidx.trans_le hle, htarget⟩
  | gesture g => exact lt_of_lt_of_le h hle

/-- A workspace more, before the place where the switch leads. -/
theorem WorkspaceSwitch.InRange.offset (h : switch.InRange count) :
    switch.offset.InRange (count + 1) := by
  cases switch with
  | animation target =>
    obtain ⟨idx, hidx, rfl⟩ := h
    exact ⟨idx + 1, by omega, by push_cast; rfl⟩
  | gesture g => exact succ_lt_succ h

namespace Monitor

/-- **The switch in range**: the active workspace is there, and so is the one that a switch leads to
    or started from. -/
structure InRange (mon : Monitor Id) : Prop where
  active : mon.activeWorkspaceIdx < mon.workspaces.length
  switch : ∀ switch ∈ mon.workspaceSwitch, switch.InRange mon.workspaces.length

/-- The ids of the workspaces. -/
def workspaceIds (mon : Monitor Id) : List WorkspaceId := mon.workspaces.map (·.id)

/-- All workspaces are still there. -/
structure Grows (old mon : Monitor Id) : Prop where
  inRange : mon.InRange
  ids : old.workspaceIds ⊆ mon.workspaceIds

/-- All workspaces are still there if there is a switch. -/
structure Kept (old mon : Monitor Id) : Prop where
  inRange : mon.InRange
  ids : mon.workspaceSwitch.isSome → old.workspaceIds ⊆ mon.workspaceIds

variable {old mon mon' : Monitor Id}

theorem Grows.refl (h : mon.InRange) : mon.Grows mon := ⟨h, List.Subset.refl _⟩

theorem Grows.kept (h : old.Grows mon) : old.Kept mon := ⟨h.inRange, fun _ => h.ids⟩

theorem Grows.trans (h : old.Grows mon) (h' : mon.Grows mon') : old.Grows mon' :=
  ⟨h'.inRange, List.Subset.trans h.ids h'.ids⟩

theorem Grows.trans_kept (h : old.Grows mon) (h' : mon.Kept mon') : old.Kept mon' :=
  ⟨h'.inRange, fun hswitch => List.Subset.trans h.ids (h'.ids hswitch)⟩

/-- Without a switch, there is nothing to be kept. -/
theorem Kept.of_none (hactive : mon.activeWorkspaceIdx < mon.workspaces.length)
    (hswitch : mon.workspaceSwitch = none) : old.Kept mon where
  inRange := ⟨hactive, fun switch hin => by
    rw [hswitch] at hin
    cases hin⟩
  ids hsome := by
    rw [hswitch] at hsome
    cases hsome

/-- As many workspaces as before, and the same switch. -/
theorem InRange.same (h : mon.InRange) (hlen : mon'.workspaces.length = mon.workspaces.length)
    (hactive : mon'.activeWorkspaceIdx = mon.activeWorkspaceIdx)
    (hswitch : mon'.workspaceSwitch = mon.workspaceSwitch) : mon'.InRange := by
  refine ⟨?_, fun switch hin => ?_⟩
  · rw [hlen, hactive]
    exact h.active
  · rw [hlen]
    rw [hswitch] at hin
    exact h.switch switch hin

/-! ## Workspaces are added -/

theorem addWorkspaceAt_grows (h : mon.InRange) (idx : ℕ) :
    Yields (mon.addWorkspaceAt idx) fun mon' => mon.Grows mon' ∧
      mon'.workspaces.length = mon.workspaces.length + 1 := by
  refine Yields.any.bind fun ws _ => (Yields.lift Ensures.self).bind fun workspaces hws =>
    of_pure ?_
  have hlen := (insertAt_length hws).1
  have hperm := insertAt_perm hws
  have hactive := h.active
  refine ⟨⟨⟨?_, fun switch hin => ?_⟩, ?_⟩, hlen⟩
  · dsimp only
    split_ifs <;> omega
  · obtain ⟨switch₀, hin₀, rfl⟩ := map_eq_some_iff.mp hin
    rw [hlen]
    split_ifs
    · exact (h.switch switch₀ hin₀).offset
    · exact (h.switch switch₀ hin₀).mono (le_succ _)
  · intro id hid
    exact ((hperm.map (·.id)).mem_iff).mpr (mem_cons_of_mem _ hid)

theorem bottomIf_grows (h : mon.InRange) (c : Bool) :
    Yields (mon.bottomIf c) fun mon' => mon.Grows mon' ∧
      mon'.workspaces.length = mon.workspaces.length + if c then 1 else 0 := by
  refine Yields.ite (fun hc => ?_) fun hc => of_pure ⟨.refl h, by rw [if_neg hc]; rfl⟩
  exact (addWorkspaceAt_grows h _).mono fun mon' hmon' => ⟨hmon'.1, by rw [hmon'.2, if_pos hc]⟩

/-- What was below a workspace that may have been added is still there. -/
theorem topIf_grows (h : mon.InRange) (c : Bool) :
    Yields (mon.topIf c) fun mon' => mon.Grows mon' ∧ ∃ shift,
      mon'.workspaces.length = mon.workspaces.length + shift ∧
        (c = false → shift = 0) ∧ ∀ idx, mon.shiftedIdx c idx = idx + shift := by
  refine Yields.ite (fun hc => ?_) fun hc => of_pure ⟨.refl h, 0, rfl, fun _ => rfl, fun idx => ?_⟩
  · refine (addWorkspaceAt_grows h _).mono fun mon' hmon' =>
      ⟨hmon'.1, 1, hmon'.2, fun hoff => ?_, fun idx => if_pos hc⟩
    rw [hoff, Bool.and_false] at hc
    cases hc
  · exact if_neg hc

/-! ## Activating and cleaning up -/

variable {idx : ℕ} {g : WorkspaceSwitchGesture}

/-- Where a monitor is after its workspace at `idx` got the focus. -/
theorem InRange.activated (h : mon.InRange) (hidx : idx < mon.workspaces.length)
    (previous : Option WorkspaceId) {switch : Option WorkspaceSwitch}
    (hswitch : switch = mon.workspaceSwitch ∨ ∀ s ∈ switch, s.InRange mon.workspaces.length) :
    mon.Grows { mon with
      activeWorkspaceIdx := idx
      previousWorkspaceId := previous
      workspaceSwitch := switch } := by
  refine ⟨⟨hidx, fun s hs => ?_⟩, List.Subset.refl _⟩
  rcases hswitch with rfl | hswitch
  · exact h.switch s hs
  · exact hswitch s hs

theorem activateWorkspace_grows (h : mon.InRange) (hidx : idx < mon.workspaces.length) :
    Ensures (mon.activateWorkspace idx) fun mon' => mon.Grows mon' ∧
      mon'.workspaces = mon.workspaces := by
  have hanimation : ∀ s ∈ some (WorkspaceSwitch.animation idx), s.InRange mon.workspaces.length := by
    intro s hs
    cases hs
    exact ⟨idx, hidx, rfl⟩
  refine Ensures.self.bind fun previous _ => ?_
  have hstay : ∀ {switch}, mon.workspaceSwitch = switch → Ensures
      (if mon.activeWorkspaceIdx = idx then some { mon with
          activeWorkspaceIdx := idx
          previousWorkspaceId :=
            if mon.activeWorkspaceIdx ≠ idx then some previous.id else mon.previousWorkspaceId
          workspaceSwitch := switch }
        else some { mon with
          activeWorkspaceIdx := idx
          previousWorkspaceId :=
            if mon.activeWorkspaceIdx ≠ idx then some previous.id else mon.previousWorkspaceId
          workspaceSwitch := some (.animation idx) })
      fun mon' => mon.Grows mon' ∧ mon'.workspaces = mon.workspaces := fun hs =>
    Ensures.ite (fun _ => of_some ⟨h.activated hidx _ (.inl hs.symm), rfl⟩)
      fun _ => of_some ⟨h.activated hidx _ (.inr hanimation), rfl⟩
  cases hs : mon.workspaceSwitch with
  | none => exact hstay hs
  | some switch =>
    cases switch with
    | animation target => exact hstay hs
    | gesture g =>
      refine Ensures.ite (fun _ => of_some ⟨h.activated hidx _ (.inr fun s hs => ?_), rfl⟩)
        fun _ => hstay hs
      cases hs
      exact hidx

theorem activateWorkspaceIf_grows (h : mon.InRange) (c : Bool) (hidx : idx < mon.workspaces.length) :
    Ensures (mon.activateWorkspaceIf c idx) fun mon' => mon.Grows mon' ∧
      mon'.workspaces = mon.workspaces :=
  Ensures.ite (fun _ => activateWorkspace_grows h hidx) fun _ => of_some ⟨.refl h, rfl⟩

theorem cleanUpStep_active (hactive : mon.activeWorkspaceIdx < mon.workspaces.length) (idx : ℕ) :
    Ensures (mon.cleanUpStep idx) fun mon' =>
      mon'.activeWorkspaceIdx < mon'.workspaces.length ∧
        mon'.workspaceSwitch = mon.workspaceSwitch := by
  refine Ensures.ite (fun _ => of_some ⟨hactive, rfl⟩) fun hne => ?_
  refine Ensures.self.bind fun ws hws => Ensures.ite (fun _ => of_pure ⟨hactive, rfl⟩)
    fun _ => of_pure ⟨?_, rfl⟩
  obtain ⟨hlt, -⟩ := List.getElem?_eq_some_iff.mp hws
  dsimp only
  rw [length_eraseIdx_of_lt hlt]
  split_ifs <;> omega

theorem cleanUpLoop_active (start n : ℕ)
    (hactive : mon.activeWorkspaceIdx < mon.workspaces.length) :
    Ensures (cleanUpLoop start n mon) fun mon' =>
      mon'.activeWorkspaceIdx < mon'.workspaces.length ∧
        mon'.workspaceSwitch = mon.workspaceSwitch := by
  induction n generalizing mon with
  | zero => exact of_some ⟨hactive, rfl⟩
  | succ n ih =>
    refine (cleanUpStep_active hactive _).bind fun mon₁ h₁ => (ih h₁.1).mono fun mon' h' => ?_
    exact ⟨h'.1, h'.2.trans h₁.2⟩

/-- **Cleaning up** takes place without a switch. -/
theorem cleanUpWorkspaces_active (hactive : mon.activeWorkspaceIdx < mon.workspaces.length) :
    Ensures mon.cleanUpWorkspaces fun mon' =>
      mon'.activeWorkspaceIdx < mon'.workspaces.length ∧ mon'.workspaceSwitch = none := by
  refine Ensures.ite (fun _ => of_none) fun hswitch => ?_
  have hnone : mon.workspaceSwitch = none := by simpa using hswitch
  refine (cleanUpLoop_active _ _ hactive).bind fun mon₁ h₁ => ?_
  have hswitch₁ := h₁.2.trans hnone
  unfold mergeEnds
  split
  · exact Ensures.ite (fun _ => Ensures.ite (fun _ => of_none)
      fun _ => of_some ⟨one_pos, hswitch₁⟩) fun _ => of_some ⟨h₁.1, hswitch₁⟩
  · exact of_some ⟨h₁.1, hswitch₁⟩

theorem cleanUpWorkspaces_kept (h : mon.InRange) :
    Ensures mon.cleanUpWorkspaces fun mon' => old.Kept mon' ∧ mon'.workspaceSwitch = none :=
  (cleanUpWorkspaces_active h.active).mono fun _ h' => ⟨.of_none h'.1 h'.2, h'.2⟩

theorem cleanUpIfIdle_kept (h : mon.InRange) : Ensures mon.cleanUpIfIdle (mon.Kept ·) :=
  Ensures.ite (fun _ => (cleanUpWorkspaces_kept h).mono fun _ h' => h'.1)
    fun _ => of_some (Grows.refl h).kept

theorem stopSwitchAndCleanUp_kept (hactive : mon.activeWorkspaceIdx < mon.workspaces.length) :
    Ensures mon.stopSwitchAndCleanUp fun mon' => old.Kept mon' ∧ mon'.workspaceSwitch = none := by
  refine Ensures.mono (cleanUpWorkspaces_active ?_) fun _ h' => ⟨.of_none h'.1 h'.2, h'.2⟩
  exact hactive

/-! ## Windows in and out -/

/-- A workspace changes, and stays the workspace it is. -/
theorem set_grows (h : mon.InRange) {ws ws' : Workspace Id} (hget : mon.workspaces[idx]? = some ws)
    (hid : ws'.id = ws.id) : mon.Grows { mon with workspaces := mon.workspaces.set idx ws' } := by
  refine ⟨h.same length_set rfl rfl, ?_⟩
  obtain ⟨front, rest, hws, rfl⟩ := Vec.getElem?_eq_some_split.mp hget
  have hids : (mon.workspaces.set front.length ws').map (·.id) = mon.workspaces.map (·.id) := by
    rw [hws, set_append_length]
    simp [hid]
  intro id hin
  rw [workspaceIds, hids]
  exact hin

variable {f : Workspace Id → Option (Workspace Id)}

theorem modifyWorkspace_grows (h : mon.InRange) (idx : ℕ)
    (hf : ∀ ws : Workspace Id, ws.KeepsId (f ws)) :
    Ensures (mon.modifyWorkspace idx f) fun mon' => mon.Grows mon' ∧
      idx < mon'.workspaces.length := by
  refine Ensures.self.bind fun workspaces hws => of_pure ?_
  obtain ⟨ws, hget, hws⟩ := bind_eq_some_iff.mp hws
  obtain ⟨ws', hws', rfl⟩ := map_eq_some_iff.mp hws
  obtain ⟨hlt, -⟩ := List.getElem?_eq_some_iff.mp hget
  exact ⟨set_grows h hget (hf ws ws' hws'), by rwa [length_set]⟩

theorem fillWorkspace_grows (h : mon.InRange) (idx : ℕ)
    (hf : ∀ ws : Workspace Id, ws.KeepsId (f ws)) :
    Ensures (mon.fillWorkspace idx f) fun mon' => mon.Grows mon' ∧ idx < mon'.workspaces.length := by
  refine modifyWorkspace_grows h idx fun ws => ?_
  intro ws' hws'
  obtain ⟨ws₁, hws₁, rfl⟩ := map_eq_some_iff.mp hws'
  unfold own
  split_ifs <;> exact hf ws ws₁ hws₁

theorem settle_grows (h : mon.InRange) (hidx : idx < mon.workspaces.length) (activate : Bool) :
    Yields (mon.settle idx activate) (mon.Grows ·) := by
  refine (bottomIf_grows h _).bind fun mon₁ h₁ => (topIf_grows h₁.1.inRange _).bind fun mon₂ h₂ =>
    Yields.lift ?_
  obtain ⟨h₂, shift, hlen₂, -, hshift⟩ := h₂
  have hidx₂ : mon₁.shiftedIdx (idx = 0) idx < mon₂.workspaces.length := by
    rw [hshift, hlen₂, h₁.2]
    omega
  exact (activateWorkspaceIf_grows h₂.inRange activate hidx₂).mono fun mon₃ h₃ =>
    (h₁.1.trans h₂).trans h₃.1

section Moves

variable [DecidableEq Id]

section

variable (h : mon.InRange)
include h

theorem addTile_grows (tile : Tile Id) (target : MonitorAddWindowTarget Id)
    (activate : ActivateWindow) (allowed : Bool) (width : ColumnWidth)
    (isFullWidth isFloating : Bool) :
    Yields (mon.addTile tile target activate allowed width isFullWidth isFloating) (mon.Grows ·) := by
  refine (Yields.lift Ensures.self).bind fun p _ => ?_
  refine (Yields.lift (fillWorkspace_grows h p.1 fun ws => Workspace.addTile_id ws _ _ _ _ _ _)).bind
    fun mon₁ h₁ => (settle_grows h₁.1.inRange h₁.2 _).mono fun mon₂ h₂ => h₁.1.trans h₂

theorem addWindow_grows (window : Window Id) (target : MonitorAddWindowTarget Id)
    (activate : ActivateWindow) (width : ColumnWidth) (isFullWidth isFloating : Bool) :
    Yields (mon.addWindow window target activate width isFullWidth isFloating) (mon.Grows ·) :=
  (Yields.lift Ensures.self).bind fun _ _ => addTile_grows h _ _ _ _ _ _ _

theorem addColumn_grows (idx : ℕ) (column : Column Id) (activate : Bool) :
    Yields (mon.addColumn idx column activate) (mon.Grows ·) :=
  (Yields.lift (fillWorkspace_grows h idx fun ws => Workspace.addToScrolling_id ws _ _)).bind
    fun _ h₁ => (settle_grows h₁.1.inRange h₁.2 _).mono fun _ h₂ => h₁.1.trans h₂

theorem addTileToColumn_grows (idx columnIdx : ℕ) (tileIdx : Option ℕ) (tile : Tile Id)
    (activate allowed : Bool) :
    Ensures (mon.addTileToColumn idx columnIdx tileIdx tile activate allowed) (mon.Grows ·) :=
  (fillWorkspace_grows h idx fun ws => Workspace.addToScrolling_id ws _ _).bind fun _ h₁ =>
    (activateWorkspaceIf_grows h₁.1.inRange _ h₁.2).mono fun _ h₂ => h₁.1.trans h₂.1

theorem takeActiveTile_grows (idx : ℕ) (expected : Option ISize) :
    Ensures (mon.takeActiveTile idx expected) fun p => mon.Grows p.2 :=
  Ensures.self.bind fun ws hws => (Workspace.removeActiveTile_id ws expected).bind fun _ hp =>
    of_pure (set_grows h hws hp)

theorem takeTarget_grows (idx : ℕ) (expected : Option ISize) (window : Option Id) :
    Ensures (mon.takeTarget idx expected window) fun p => mon.Grows p.2 := by
  cases window with
  | none => exact takeActiveTile_grows h idx expected
  | some window =>
    refine Ensures.bind (P := fun p => mon.Grows p.2) ?_ fun p hp => of_pure hp
    exact Ensures.self.bind fun ws hws => (Workspace.removeTile_id ws window expected).bind
      fun p hp => of_pure (set_grows h hws hp)

theorem takeActiveColumn_grows (idx : ℕ) :
    Ensures (mon.takeActiveColumn idx) fun p => mon.Grows p.2 :=
  Ensures.self.bind fun ws hws => (Workspace.removeActiveColumn_id ws).bind fun _ hp =>
    of_pure (set_grows h hws hp)

variable (newIdx : ℕ)

theorem moveToWorkspaceAt_grows (focus : Bool) (expected : Option ISize) :
    Yields (mon.moveToWorkspaceAt newIdx focus expected) (mon.Grows ·) := by
  refine Yields.ite (fun _ => of_pure (.refl h)) fun _ =>
    (Yields.lift Ensures.self).bind fun target _ =>
      (Yields.lift (takeActiveTile_grows h _ expected)).bind fun p hp => ?_
  obtain ⟨removed, mon₁⟩ := p
  cases removed with
  | none => exact of_pure hp
  | some removed =>
    exact (addTile_grows hp.inRange _ _ _ _ _ _ _).mono fun mon₂ h₂ => hp.trans h₂

theorem moveToWorkspace_kept (window : Option Id) (idx : ℕ) (activate : ActivateWindow)
    (expected : Option ISize) :
    Yields (mon.moveToWorkspace window idx activate expected) (mon.Kept ·) := by
  refine Yields.bind Yields.any fun source _ => Yields.ite
    (fun _ => of_pure (Grows.refl h).kept) fun _ => (Yields.lift Ensures.self).bind
      fun target _ => (Yields.lift (takeTarget_grows h _ expected window)).bind fun p hp => ?_
  obtain ⟨removed, mon₁⟩ := p
  cases removed with
  | none => exact of_pure hp.kept
  | some removed =>
    refine (addTile_grows hp.inRange _ _ _ _ _ _ _).bind fun mon₂ h₂ =>
      Yields.lift ((cleanUpIfIdle_kept h₂.inRange).mono fun mon₃ h₃ => ?_)
    exact (hp.trans h₂).trans_kept h₃

theorem moveColumnToWorkspaceAt_kept (activate : Bool) {instead : LayoutM (Monitor Id)}
    (hinstead : Yields instead (mon.Kept ·)) :
    Yields (mon.moveColumnToWorkspaceAt newIdx activate instead) (mon.Kept ·) := by
  refine Yields.ite (fun _ => of_pure (Grows.refl h).kept) fun _ =>
    (Yields.lift Ensures.self).bind fun ws _ => Yields.ite (fun _ => hinstead) fun _ =>
      (Yields.lift (takeActiveColumn_grows h _)).bind fun p hp => ?_
  obtain ⟨column, mon₁⟩ := p
  cases column with
  | none => exact of_pure hp.kept
  | some column =>
    exact (addColumn_grows hp.inRange _ _ _).mono fun mon₂ h₂ => (hp.trans h₂).kept

end

end Moves

/-! ## Workspaces in and out -/

section

variable (h : mon.InRange)
include h

theorem unnameWorkspace_kept (id : WorkspaceId) :
    Ensures (mon.unnameWorkspace id) fun p => mon.Kept p.1 := by
  unfold unnameWorkspace
  split
  · exact of_some (Grows.refl h).kept
  · refine Ensures.bind (modifyWorkspace_grows h _ fun ws => ?_) fun mon₁ h₁ =>
      (cleanUpIfIdle_kept h₁.1.inRange).bind fun mon₂ h₂ => of_pure (h₁.1.trans_kept h₂)
    exact of_some rfl

theorem removeWorkspaceByIdx_kept (idx : ℕ) :
    Yields (mon.removeWorkspaceByIdx idx) fun p => mon.Kept p.2 := by
  refine Yields.any.bind fun geometry _ => (bottomIf_grows h _).bind fun mon₁ h₁ =>
    (topIf_grows h₁.1.inRange _).bind fun mon₂ h₂ => (Yields.lift Ensures.self).bind fun p hp =>
      (Yields.lift Ensures.self).bind fun ws _ => ?_
  obtain ⟨h₂, shift, hlen₂, hoff, hshift⟩ := h₂
  obtain ⟨hlen, hlt⟩ := removeAt_length hp
  rw [hshift] at hlt
  have hlen₁ := h₁.2
  have hactive := h₂.inRange.active
  have hshift0 : idx ≠ 0 → shift = 0 := fun hne => hoff (decide_eq_false hne)
  refine (Yields.lift (stopSwitchAndCleanUp_kept ?_)).bind fun mon₃ h₃ => of_pure h₃.1
  -- The last workspace gets another one below it before it is removed.
  have htwo : 2 ≤ mon₂.workspaces.length := by
    by_cases hend : idx + 1 = mon.workspaces.length
    · rw [if_pos (decide_eq_true hend)] at hlen₁
      omega
    · rw [if_neg (by simpa using hend)] at hlen₁
      by_cases hzero : idx = 0
      · omega
      · omega
  dsimp only
  rw [hshift]
  split_ifs <;> omega

theorem insertWorkspace_kept (ws : Workspace Id) (idx : ℕ) (activate : Bool) :
    Yields (mon.insertWorkspace ws idx activate) (mon.Kept ·) := by
  refine Yields.any.bind fun ws _ => (topIf_grows h _).bind fun mon₁ h₁ =>
    (Yields.lift Ensures.self).bind fun workspaces hws => ?_
  obtain ⟨hlen, hle⟩ := insertAt_length hws
  have hactive := h₁.1.inRange.active
  refine (Yields.lift (activateWorkspaceIf_grows ⟨?_, ?_⟩ activate ?_)).bind fun mon₂ h₂ =>
    Yields.lift ((stopSwitchAndCleanUp_kept h₂.1.inRange.active).mono fun mon₃ h₃ => h₃.1)
  · dsimp only
    split_ifs <;> omega
  · intro switch hin
    cases activate with
    | true => cases hin
    | false => exact (h₁.1.inRange.switch switch hin).mono (by dsimp only; omega)
  · dsimp only
    omega

theorem appendWorkspaces_kept (workspaces : List (Workspace Id)) :
    Yields (mon.appendWorkspaces workspaces) (mon.Kept ·) := by
  refine Yields.ite (fun _ => of_pure (Grows.refl h).kept) fun _ =>
    Yields.any.bind fun workspaces _ => (Yields.lift Ensures.self).bind fun p hp =>
      (Yields.lift Ensures.self).bind fun first _ => (topIf_grows ⟨?_, ?_⟩ _).bind fun mon₁ h₁ =>
        Yields.lift ((stopSwitchAndCleanUp_kept ?_).mono fun mon₂ h₂ => h₂.1)
  · obtain ⟨hlen, -⟩ := removeAt_length hp
    have hactive := h.active
    simp only [length_append, length_singleton]
    omega
  · intro switch hin
    obtain ⟨hlen, -⟩ := removeAt_length hp
    refine (h.switch switch hin).mono ?_
    simp only [length_append, length_singleton]
    omega
  · have hactive := h₁.1.inRange.active
    dsimp only
    split_ifs <;> omega

/-! ## Moving workspaces -/

theorem followMoved_kept {newIdx : ℕ} (hidx : newIdx < mon.workspaces.length) :
    Ensures (mon.followMoved newIdx) (old.Kept ·) := by
  refine (activateWorkspace_grows h hidx).bind fun mon₁ h₁ =>
    Ensures.mono (stopSwitchAndCleanUp_kept ?_) fun mon₂ h₂ => h₂.1
  exact h₁.1.inRange.active

/-- Two workspaces have changed places, and the one that moved is followed. -/
theorem swapped_kept {workspaces : List (Workspace Id)} {i newIdx : ℕ}
    (hws : Vec.swap mon.workspaces i newIdx = some workspaces)
    (hidx : newIdx < mon.workspaces.length) (bottom top : Bool) :
    Yields (do
      let self ← ({ mon with workspaces := workspaces } : Monitor Id).bottomIf bottom
      let newIdx := self.shiftedIdx top newIdx
      let self ← self.topIf top
      self.followMoved newIdx) (mon.Kept ·) := by
  have hlen : workspaces.length = mon.workspaces.length := (swap_perm hws).length_eq
  have hmoved : ({ mon with workspaces := workspaces } : Monitor Id).InRange := h.same hlen rfl rfl
  refine (bottomIf_grows hmoved _).bind fun mon₁ h₁ =>
    (topIf_grows h₁.1.inRange _).bind fun mon₂ h₂ => Yields.lift (followMoved_kept h₂.1.inRange ?_)
  obtain ⟨h₂, shift, hlen₂, -, hshift⟩ := h₂
  have hlen₁ := h₁.2
  rw [hshift, hlen₂, hlen₁]
  dsimp only
  omega

theorem moveWorkspaceDown_kept : Yields mon.moveWorkspaceDown (mon.Kept ·) := by
  refine Yields.ite (fun _ => of_pure (Grows.refl h).kept) fun _ =>
    (Yields.lift Ensures.self).bind fun workspaces hws => swapped_kept h hws ?_ _ _
  have hactive := h.active
  unfold idxDown
  omega

theorem moveWorkspaceUp_kept : Yields mon.moveWorkspaceUp (mon.Kept ·) := by
  refine Yields.ite (fun _ => of_pure (Grows.refl h).kept) fun _ =>
    (Yields.lift Ensures.self).bind fun workspaces hws => swapped_kept h hws ?_ _ _
  have hactive := h.active
  unfold idxUp
  omega

theorem moveWorkspaceToIdx_kept (oldIdx newIdx : ℕ) :
    Yields (mon.moveWorkspaceToIdx oldIdx newIdx) (mon.Kept ·) := by
  refine Yields.ite (fun _ => of_pure (Grows.refl h).kept) fun hold =>
    Yields.ite (fun _ => of_pure (Grows.refl h).kept) fun _ =>
      (Yields.lift Ensures.self).bind fun p hp => (Yields.lift Ensures.self).bind
        fun workspaces hws => ?_
  have hlen : workspaces.length = mon.workspaces.length := by
    have hremoved := (removeAt_length hp).1
    have hinserted := (insertAt_length hws).1
    omega
  have hmoved : ({ mon with workspaces := workspaces } : Monitor Id).InRange := h.same hlen rfl rfl
  refine (bottomIf_grows hmoved _).bind fun mon₁ h₁ =>
    (topIf_grows h₁.1.inRange _).bind fun mon₂ h₂ =>
      Yields.lift ((stopSwitchAndCleanUp_kept ?_).mono fun mon₃ h₃ => h₃.1)
  obtain ⟨h₂, shift, hlen₂, -, hshift⟩ := h₂
  have hlen₁ := h₁.2
  have hactive₂ := h₂.inRange.active
  dsimp only at hlen₁ ⊢
  rw [hshift]
  unfold activeAfterMove
  split_ifs <;> omega

/-! ## Configuration -/

omit h in
/-- The same workspaces, and the same switch. -/
theorem Kept.sameIds (h : old.Kept mon) {workspaces : List (Workspace Id)}
    (hids : List.Forall₂ (fun ws ws' => ws'.id = ws.id) mon.workspaces workspaces)
    {baseOptions options : Options} :
    old.Kept { mon with
      workspaces := workspaces
      baseOptions := baseOptions
      options := options } := by
  have hmap : workspaces.map (·.id) = mon.workspaces.map (·.id) := by
    rw [← List.forall₂_eq_eq_eq, List.forall₂_map_left_iff, List.forall₂_map_right_iff]
    exact hids.flip
  refine ⟨h.inRange.same hids.length_eq.symm rfl rfl, fun hswitch => ?_⟩
  change old.workspaceIds ⊆ workspaces.map (·.id)
  rw [hmap]
  exact h.ids hswitch

theorem toggleTop_kept (emptyAboveFirst : Bool) :
    Yields (mon.toggleTop emptyAboveFirst) (mon.Kept ·) := by
  refine Yields.ite (fun _ => Yields.ite (fun _ => ?_) fun _ => Yields.ite (fun hnone => ?_)
    fun _ => of_pure (Grows.refl h).kept) fun _ => of_pure (Grows.refl h).kept
  · exact (addWorkspaceAt_grows h 0).mono fun mon' h' => h'.1.kept
  · have hactive := h.active
    refine of_pure (.of_none ?_ (isNone_iff_eq_none.mp hnone.1))
    dsimp only
    rw [length_tail]
    omega

theorem updateConfig_kept (baseOptions : Options) :
    Yields (mon.updateConfig baseOptions) (mon.Kept ·) :=
  (toggleTop_kept h _).bind fun mon₁ h₁ =>
    (Yields.mapM (fun ws => Yields.lift (Workspace.updateConfig_id ws _)) mon₁.workspaces).bind
      fun _ hids => of_pure (h₁.sameIds hids)

theorem updateLayoutConfig_kept (layoutConfig : Option LayoutPart) :
    Yields (mon.updateLayoutConfig layoutConfig) (mon.Kept ·) := by
  refine Yields.ite (fun _ => of_pure (Grows.refl h).kept) fun _ =>
    (updateConfig_kept (h.same ?_ ?_ ?_) _).mono fun mon' h' => ⟨h'.inRange, h'.ids⟩ <;> rfl

theorem updateOutputSize_kept : Yields mon.updateOutputSize (mon.Kept ·) :=
  Yields.any.bind fun _ _ =>
    (Yields.mapM (fun ws => Yields.lift (Workspace.updateOutputSize_id ws _)) mon.workspaces).bind
      fun _ hids => of_pure ((Grows.refl h).kept.sameIds hids)

/-! ## Switching, and gestures -/

theorem idxUp_lt : mon.idxUp < mon.workspaces.length := by
  have hactive := h.active
  unfold idxUp
  omega

theorem idxDown_lt : mon.idxDown < mon.workspaces.length := by
  have hactive := h.active
  unfold idxDown
  omega

theorem apparentIdx_lt (new : ℤ) : mon.apparentIdx new < mon.workspaces.length := by
  have hactive := h.active
  unfold apparentIdx
  omega

theorem switchWorkspaceUp_grows : Ensures mon.switchWorkspaceUp (mon.Grows ·) := by
  refine (activateWorkspace_grows h ?_).mono fun mon' h' => h'.1
  split
  · split_ifs
    · exact apparentIdx_lt h _
    · exact idxUp_lt h
  · exact idxUp_lt h

theorem switchWorkspaceDown_grows : Ensures mon.switchWorkspaceDown (mon.Grows ·) := by
  refine (activateWorkspace_grows h ?_).mono fun mon' h' => h'.1
  split
  · split_ifs
    · exact apparentIdx_lt h _
    · exact idxDown_lt h
  · exact idxDown_lt h

theorem switchWorkspace_grows (idx : ℕ) : Ensures (mon.switchWorkspace idx) (mon.Grows ·) := by
  have hactive := h.active
  exact (activateWorkspace_grows h (by omega)).mono fun mon' h' => h'.1

theorem switchWorkspacePrevious_grows : Ensures mon.switchWorkspacePrevious (mon.Grows ·) := by
  unfold switchWorkspacePrevious
  split
  · exact switchWorkspace_grows h _
  · exact of_some (.refl h)

theorem switchWorkspaceAutoBackAndForth_grows (idx : ℕ) :
    Ensures (mon.switchWorkspaceAutoBackAndForth idx) (mon.Grows ·) :=
  Ensures.ite (fun _ => switchWorkspacePrevious_grows h) fun _ => switchWorkspace_grows h idx

theorem advanceAnimations_kept (isDone : Bool) :
    Ensures (mon.advanceAnimations isDone) (mon.Kept ·) := by
  unfold advanceAnimations
  split
  · exact Ensures.ite (fun _ => (stopSwitchAndCleanUp_kept h.active).mono fun _ h' => h'.1)
      fun _ => of_some (Grows.refl h).kept
  · exact of_some (Grows.refl h).kept

/-- A gesture around the active workspace. -/
theorem InRange.begun (hcenter : g.centerIdx = mon.activeWorkspaceIdx) :
    mon.Grows { mon with workspaceSwitch := some (.gesture g) } := by
  refine h.activated h.active _ (.inr fun s hs => ?_)
  cases hs
  change g.centerIdx < mon.workspaces.length
  rw [hcenter]
  exact h.active

theorem dndScrollGestureBegin_grows (renderIdx : ℚ) :
    mon.Grows (mon.dndScrollGestureBegin renderIdx) := by
  unfold dndScrollGestureBegin
  split
  · split_ifs
    · exact .refl h
    · exact h.begun rfl
    · exact .refl h
  · split_ifs
    · exact h.begun rfl
    · exact .refl h

/-- Where a gesture is does not matter. -/
theorem workspaceSwitchGestureUpdate_grows (newIdx : ℚ) :
    mon.Grows (mon.workspaceSwitchGestureUpdate newIdx) := by
  unfold workspaceSwitchGestureUpdate
  split
  · rename_i g hg
    have hcenter := h.switch _ hg
    refine h.activated h.active _ (.inr fun s hs => ?_)
    cases hs
    exact hcenter
  · exact .refl h

theorem workspaceSwitchGestureUpdateTo_grows (isTouchpad : Bool) (zoom reached : ℚ) :
    Ensures (mon.workspaceSwitchGestureUpdateTo isTouchpad zoom reached) fun p =>
      mon.Grows p.1 := by
  unfold workspaceSwitchGestureUpdateTo
  split
  · refine Ensures.ite (fun _ => of_some (.refl h)) fun _ => Ensures.self.bind fun newIdx _ =>
      Ensures.ite (fun _ => of_pure (.refl h)) fun _ => of_pure ?_
    exact workspaceSwitchGestureUpdate_grows h newIdx
  · exact of_some (.refl h)

variable (triggerHeight : ℚ)

theorem dndScrollGestureScroll_grows (geometry : OutputGeometry) (zoom x y speed : ℚ)
    (waited : Bool) (reached : ℚ) :
    Ensures (mon.dndScrollGestureScroll triggerHeight geometry zoom x y speed waited reached)
      fun p => mon.Grows p.1 := by
  unfold dndScrollGestureScroll
  split
  · refine Ensures.ite (fun _ => of_some (.refl h)) fun _ => Ensures.self.bind fun delta _ =>
      Ensures.ite (fun _ => of_pure (.refl h)) fun _ => Ensures.ite
        (fun _ => of_pure (.refl h)) fun _ => Ensures.self.bind fun clamped _ =>
          of_pure ?_
    exact workspaceSwitchGestureUpdate_grows h clamped
  · exact of_some (.refl h)

variable (isTouchpad : Option Bool) (projected : ℚ)

/-- **The end of a gesture** makes a workspace active that is there. -/
theorem workspaceSwitchGestureEnd_grows :
    Ensures (mon.workspaceSwitchGestureEnd isTouchpad projected) (mon.Grows ·) := by
  unfold workspaceSwitchGestureEnd
  split
  · rename_i g hg
    obtain ⟨hle, hlt⟩ := g.minMax_le (h.switch _ hg)
    have hidx := (round_clamp_le hle projected).trans_lt hlt
    refine Ensures.ite (fun _ => of_some (.refl h)) fun _ => Ensures.ite
      (fun _ => of_none) fun _ => Ensures.self.bind fun previous _ => of_pure ?_
    refine h.activated hidx _ (.inr fun s hs => ?_)
    cases hs
    exact ⟨_, hidx, rfl⟩
  · exact of_some (.refl h)

theorem dndScrollGestureEnd_grows : Ensures (mon.dndScrollGestureEnd projected) (mon.Grows ·) := by
  unfold dndScrollGestureEnd
  split
  · exact Ensures.ite (fun _ => workspaceSwitchGestureEnd_grows h none projected)
      fun _ => of_some (.refl h)
  · exact of_some (.refl h)

/-! ## Nothing aborts -/

/-- The bounds of a gesture are the right way round. -/
theorem InRange.minMax_le (hg : mon.workspaceSwitch = some (.gesture g)) :
    ((g.minMax mon.workspaces.length).1 : ℚ) ≤ (g.minMax mon.workspaces.length).2 := by
  have hcenter : g.centerIdx < mon.workspaces.length := h.switch _ hg
  exact_mod_cast (g.minMax_le hcenter).1

theorem workspaceSwitchGestureUpdateTo_isSome (isTouchpad : Bool) (zoom reached : ℚ) :
    (mon.workspaceSwitchGestureUpdateTo isTouchpad zoom reached).isSome := by
  unfold workspaceSwitchGestureUpdateTo
  split
  · rename_i g hg
    obtain ⟨newIdx, hnewIdx⟩ := isSome_iff_exists.mp
      ((workspaceGestureRubberBand zoom).clamp_isSome reached (h.minMax_le hg))
    dsimp only
    rw [hnewIdx, bind_eq_bind, bind_some]
    split_ifs <;> rfl
  · rfl

theorem dndScrollGestureScroll_isSome {geometry : OutputGeometry}
    (hheight : 0 ≤ geometry.workingArea.size.h) (zoom x y speed : ℚ) (waited : Bool) (reached : ℚ) :
    (mon.dndScrollGestureScroll triggerHeight geometry zoom x y speed waited reached).isSome := by
  unfold dndScrollGestureScroll
  split
  · rename_i g hg
    obtain ⟨delta, hdelta⟩ := isSome_iff_exists.mp
      (dndEdgeDelta_isSome triggerHeight hheight zoom x y)
    dsimp only
    rw [hdelta, bind_eq_bind, bind_some, f64Clamp_of_le reached (h.minMax_le hg)]
    split_ifs <;> rfl
  · rfl

theorem workspaceSwitchGestureEnd_isSome :
    (mon.workspaceSwitchGestureEnd isTouchpad projected).isSome := by
  unfold workspaceSwitchGestureEnd
  split
  · rename_i g hg
    have hle := (g.minMax_le (h.switch _ hg)).1
    have hactive := h.active
    dsimp only
    rw [if_neg (not_lt.mpr hle), List.getElem?_eq_getElem hactive]
    split_ifs <;> rfl
  · rfl

theorem gestureEndVelocity_isSome (hg : mon.workspaceSwitch = some (.gesture g))
    (zoom velocity reached : ℚ) : (mon.gestureEndVelocity g zoom velocity reached).isSome := by
  obtain ⟨derivative, hderivative⟩ := isSome_iff_exists.mp
    ((workspaceGestureRubberBand zoom).clampDerivative_isSome reached (h.minMax_le hg))
  unfold gestureEndVelocity
  dsimp only
  rw [hderivative]
  rfl

end

/-! ## Runs -/

/-- A new monitor: one of its workspaces is active, and there is no switch. -/
theorem new_inRange (output : Output) (workspaces : List (Workspace Id))
    (wsIdToActivate : Option WorkspaceId) (baseOptions : Options)
    (layoutConfig : Option LayoutPart) :
    Yields (Monitor.new output workspaces wsIdToActivate baseOptions layoutConfig) InRange := by
  refine Yields.any.bind fun workspaces _ => ?_
  have hidx : (Vec.rposition (fun ws : Workspace Id => some ws.id = wsIdToActivate) workspaces).getD
      0 < workspaces.length + 1 := by
    cases h : Vec.rposition (fun ws : Workspace Id => some ws.id = wsIdToActivate) workspaces with
    | none => exact succ_pos _
    | some idx => exact (rposition_lt h).trans (lt_succ_self _)
  have htop : ∀ onTop : Bool, Yields
      (if onTop then do return [← newWorkspace output (baseOptions.withMergedLayout layoutConfig)]
        else return [] : LayoutM (List (Workspace Id))) fun top =>
      top.length = if onTop then 1 else 0 := by
    intro onTop
    cases onTop with
    | true => exact Yields.any.bind fun ws _ => of_pure rfl
    | false => exact of_pure rfl
  refine (htop _).bind fun top hlen => Yields.any.bind fun bottom _ => of_pure ⟨?_, ?_⟩
  · dsimp only
    rw [length_append, length_append, hlen, length_singleton]
    split_ifs <;> omega
  · intro switch hin
    cases hin

/-- An operation of a monitor.  What happens inside a workspace is any function of it. -/
inductive Op (Id : Type)
  | inWorkspace (idx : ℕ) (f : Workspace Id → Option (Workspace Id))
  | setOverviewOpen (isOpen : Bool)
  | addWorkspaceAt (idx : ℕ)
  | activateWorkspace (idx : ℕ)
  | addWindow (window : Window Id) (target : MonitorAddWindowTarget Id) (activate : ActivateWindow)
      (width : ColumnWidth) (isFullWidth isFloating : Bool)
  | addTile (tile : Tile Id) (target : MonitorAddWindowTarget Id) (activate : ActivateWindow)
      (allowToActivateWorkspace : Bool) (width : ColumnWidth) (isFullWidth isFloating : Bool)
  | addColumn (workspaceIdx : ℕ) (column : Column Id) (activate : Bool)
  | addTileToColumn (workspaceIdx columnIdx : ℕ) (tileIdx : Option ℕ) (tile : Tile Id)
      (activate allowToActivateWorkspace : Bool)
  | cleanUpWorkspaces
  | unnameWorkspace (id : WorkspaceId)
  | removeWorkspaceByIdx (idx : ℕ)
  | insertWorkspace (ws : Workspace Id) (idx : ℕ) (activate : Bool)
  | appendWorkspaces (workspaces : List (Workspace Id))
  | moveToWorkspaceUp (focus : Bool) (expected : Option ISize)
  | moveToWorkspaceDown (focus : Bool) (expected : Option ISize)
  | moveToWorkspace (window : Option Id) (idx : ℕ) (activate : ActivateWindow)
      (expected : Option ISize)
  | moveColumnToWorkspaceUp (activate : Bool) (expected : Option ISize)
  | moveColumnToWorkspaceDown (activate : Bool) (expected : Option ISize)
  | moveColumnToWorkspace (idx : ℕ) (activate : Bool) (expected : Option ISize)
  | switchWorkspaceUp
  | switchWorkspaceDown
  | switchWorkspace (idx : ℕ)
  | switchWorkspacePrevious
  | switchWorkspaceAutoBackAndForth (idx : ℕ)
  | advanceAnimations (isDone : Bool)
  | workspaceSwitchGestureBegin (isTouchpad : Bool) (renderIdx : ℚ)
  | workspaceSwitchGestureUpdate (isTouchpad : Bool) (zoom reached : ℚ)
  | workspaceSwitchGestureEnd (isTouchpad : Option Bool) (projected : ℚ)
  | dndScrollGestureBegin (renderIdx : ℚ)
  | dndScrollGestureScroll (triggerHeight zoom x y speed : ℚ) (waited : Bool) (reached : ℚ)
  | dndScrollGestureEnd (projected : ℚ)
  | updateConfig (baseOptions : Options)
  | updateLayoutConfig (layoutConfig : Option LayoutPart)
  | updateOutputSize
  | moveWorkspaceDown
  | moveWorkspaceUp
  | moveWorkspaceToIdx (oldIdx newIdx : ℕ)

variable [DecidableEq Id]

/-- The operation, on a monitor. -/
def Op.run (mon : Monitor Id) : Op Id → LayoutM (Monitor Id)
  | inWorkspace idx f => mon.modifyWorkspace idx f
  | setOverviewOpen isOpen => return { mon with overviewOpen := isOpen }
  | addWorkspaceAt idx => mon.addWorkspaceAt idx
  | activateWorkspace idx => mon.activateWorkspace idx
  | addWindow window target activate width isFullWidth isFloating =>
    mon.addWindow window target activate width isFullWidth isFloating
  | addTile tile target activate allowToActivateWorkspace width isFullWidth isFloating =>
    mon.addTile tile target activate allowToActivateWorkspace width isFullWidth isFloating
  | addColumn workspaceIdx column activate => mon.addColumn workspaceIdx column activate
  | addTileToColumn workspaceIdx columnIdx tileIdx tile activate allowToActivateWorkspace =>
    mon.addTileToColumn workspaceIdx columnIdx tileIdx tile activate allowToActivateWorkspace
  | cleanUpWorkspaces => mon.cleanUpWorkspaces
  | unnameWorkspace id => do return (← mon.unnameWorkspace id).1
  | removeWorkspaceByIdx idx => do return (← mon.removeWorkspaceByIdx idx).2
  | insertWorkspace ws idx activate => mon.insertWorkspace ws idx activate
  | appendWorkspaces workspaces => mon.appendWorkspaces workspaces
  | moveToWorkspaceUp focus expected => mon.moveToWorkspaceUp focus expected
  | moveToWorkspaceDown focus expected => mon.moveToWorkspaceDown focus expected
  | moveToWorkspace window idx activate expected => mon.moveToWorkspace window idx activate expected
  | moveColumnToWorkspaceUp activate expected => mon.moveColumnToWorkspaceUp activate expected
  | moveColumnToWorkspaceDown activate expected => mon.moveColumnToWorkspaceDown activate expected
  | moveColumnToWorkspace idx activate expected => mon.moveColumnToWorkspace idx activate expected
  | switchWorkspaceUp => mon.switchWorkspaceUp
  | switchWorkspaceDown => mon.switchWorkspaceDown
  | switchWorkspace idx => mon.switchWorkspace idx
  | switchWorkspacePrevious => mon.switchWorkspacePrevious
  | switchWorkspaceAutoBackAndForth idx => mon.switchWorkspaceAutoBackAndForth idx
  | advanceAnimations isDone => mon.advanceAnimations isDone
  | workspaceSwitchGestureBegin isTouchpad renderIdx =>
    return mon.workspaceSwitchGestureBegin isTouchpad renderIdx
  | workspaceSwitchGestureUpdate isTouchpad zoom reached => do
    return (← mon.workspaceSwitchGestureUpdateTo isTouchpad zoom reached).1
  | workspaceSwitchGestureEnd isTouchpad projected =>
    mon.workspaceSwitchGestureEnd isTouchpad projected
  | dndScrollGestureBegin renderIdx => return mon.dndScrollGestureBegin renderIdx
  | dndScrollGestureScroll triggerHeight zoom x y speed waited reached => do
    let geometry ← read
    return (← mon.dndScrollGestureScroll triggerHeight (geometry mon.output) zoom x y speed waited
      reached).1
  | dndScrollGestureEnd projected => mon.dndScrollGestureEnd projected
  | updateConfig baseOptions => mon.updateConfig baseOptions
  | updateLayoutConfig layoutConfig => mon.updateLayoutConfig layoutConfig
  | updateOutputSize => mon.updateOutputSize
  | moveWorkspaceDown => mon.moveWorkspaceDown
  | moveWorkspaceUp => mon.moveWorkspaceUp
  | moveWorkspaceToIdx oldIdx newIdx => mon.moveWorkspaceToIdx oldIdx newIdx

/-- What the callers see to: they activate workspaces that are there, and a workspace stays the one
    it is. -/
def Op.Ready (mon : Monitor Id) : Op Id → Prop
  | inWorkspace _ f => ∀ ws : Workspace Id, ws.KeepsId (f ws)
  | activateWorkspace idx => idx < mon.workspaces.length
  | _ => True

/-- **Every operation keeps the switch in range**, and the workspaces while there is one. -/
theorem Op.run_kept (h : mon.InRange) (op : Op Id) (hready : op.Ready mon) :
    Yields (op.run mon) (mon.Kept ·) := by
  have hlift : ∀ {x : Option (Monitor Id)}, Ensures x (mon.Grows ·) →
      Yields (liftM x : LayoutM (Monitor Id)) (mon.Kept ·) :=
    fun hx => Yields.lift (hx.mono fun _ h' => h'.kept)
  have hyields : ∀ {x : LayoutM (Monitor Id)}, Yields x (mon.Grows ·) → Yields x (mon.Kept ·) :=
    fun hx => hx.mono fun _ h' => h'.kept
  cases op with
  | inWorkspace idx f => exact hlift ((modifyWorkspace_grows h idx hready).mono fun _ h' => h'.1)
  | setOverviewOpen isOpen =>
    exact of_pure ⟨h.same rfl rfl rfl, fun _ => List.Subset.refl _⟩
  | addWorkspaceAt idx => exact hyields ((addWorkspaceAt_grows h idx).mono fun _ h' => h'.1)
  | activateWorkspace idx => exact hlift ((activateWorkspace_grows h hready).mono fun _ h' => h'.1)
  | addWindow => exact hyields (addWindow_grows h _ _ _ _ _ _)
  | addTile => exact hyields (addTile_grows h _ _ _ _ _ _ _)
  | addColumn => exact hyields (addColumn_grows h _ _ _)
  | addTileToColumn => exact hlift (addTileToColumn_grows h _ _ _ _ _ _)
  | cleanUpWorkspaces => exact Yields.lift ((cleanUpWorkspaces_kept h).mono fun _ h' => h'.1)
  | unnameWorkspace id =>
    exact (Yields.lift (unnameWorkspace_kept h id)).bind fun _ h' => of_pure h'
  | removeWorkspaceByIdx idx =>
    exact (removeWorkspaceByIdx_kept h idx).bind fun _ h' => of_pure h'
  | insertWorkspace => exact insertWorkspace_kept h _ _ _
  | appendWorkspaces => exact appendWorkspaces_kept h _
  | moveToWorkspaceUp | moveToWorkspaceDown => exact hyields (moveToWorkspaceAt_grows h _ _ _)
  | moveToWorkspace => exact moveToWorkspace_kept h _ _ _ _
  | moveColumnToWorkspaceUp | moveColumnToWorkspaceDown =>
    exact moveColumnToWorkspaceAt_kept h _ _ (hyields (moveToWorkspaceAt_grows h _ _ _))
  | moveColumnToWorkspace =>
    exact moveColumnToWorkspaceAt_kept h _ _ (moveToWorkspace_kept h _ _ _ _)
  | switchWorkspaceUp => exact hlift (switchWorkspaceUp_grows h)
  | switchWorkspaceDown => exact hlift (switchWorkspaceDown_grows h)
  | switchWorkspace idx => exact hlift (switchWorkspace_grows h idx)
  | switchWorkspacePrevious => exact hlift (switchWorkspacePrevious_grows h)
  | switchWorkspaceAutoBackAndForth idx =>
    exact hlift (switchWorkspaceAutoBackAndForth_grows h idx)
  | advanceAnimations isDone => exact Yields.lift (advanceAnimations_kept h isDone)
  | workspaceSwitchGestureBegin => exact of_pure (h.begun rfl).kept
  | workspaceSwitchGestureUpdate =>
    exact (Yields.lift (workspaceSwitchGestureUpdateTo_grows h _ _ _)).bind fun _ h' =>
      of_pure h'.kept
  | workspaceSwitchGestureEnd => exact hlift (workspaceSwitchGestureEnd_grows h _ _)
  | dndScrollGestureBegin => exact of_pure (dndScrollGestureBegin_grows h _).kept
  | dndScrollGestureScroll =>
    exact Yields.any.bind fun _ _ =>
      (Yields.lift (dndScrollGestureScroll_grows h _ _ _ _ _ _ _ _)).bind fun _ h' =>
        of_pure h'.kept
  | dndScrollGestureEnd => exact hlift (dndScrollGestureEnd_grows h _)
  | updateConfig => exact updateConfig_kept h _
  | updateLayoutConfig => exact updateLayoutConfig_kept h _
  | updateOutputSize => exact updateOutputSize_kept h
  | moveWorkspaceDown => exact moveWorkspaceDown_kept h
  | moveWorkspaceUp => exact moveWorkspaceUp_kept h
  | moveWorkspaceToIdx => exact moveWorkspaceToIdx_kept h _ _

/-- A monitor, and the counter of workspace ids. -/
abbrev State (Id : Type) := Monitor Id × WorkspaceId

/-- An operation, with the outputs as they are then. -/
abbrev Event (Id : Type) := (Output → OutputGeometry) × Op Id

/-- One operation after another. -/
def step (s : State Id) (e : Event Id) : Option (State Id) := ((e.2.run s.1).run e.1).run s.2

/-- **No clamp of a gesture aborts**: its bounds are the right way round, and updates, scrolling and
    the end of the gesture return whatever the fingers or the pointer do. -/
structure ClampsHold (mon : Monitor Id) : Prop where
  bounds : ∀ g, mon.workspaceSwitch = some (.gesture g) →
    (g.minMax mon.workspaces.length).1 ≤ (g.minMax mon.workspaces.length).2
  update : ∀ isTouchpad zoom reached,
    (mon.workspaceSwitchGestureUpdateTo isTouchpad zoom reached).isSome
  scroll : ∀ triggerHeight zoom x y speed waited reached (geometry : OutputGeometry),
    0 ≤ geometry.workingArea.size.h →
      (mon.dndScrollGestureScroll triggerHeight geometry zoom x y speed waited reached).isSome
  finish : ∀ isTouchpad projected, (mon.workspaceSwitchGestureEnd isTouchpad projected).isSome
  velocity : ∀ g, mon.workspaceSwitch = some (.gesture g) → ∀ zoom velocity reached,
    (mon.gestureEndVelocity g zoom velocity reached).isSome

omit [DecidableEq Id] in
theorem InRange.clampsHold (h : mon.InRange) : mon.ClampsHold where
  bounds g hg := by exact_mod_cast h.minMax_le hg
  update := workspaceSwitchGestureUpdateTo_isSome h
  scroll triggerHeight zoom x y speed waited reached _ hheight :=
    dndScrollGestureScroll_isSome h triggerHeight hheight zoom x y speed waited reached
  finish := workspaceSwitchGestureEnd_isSome h
  velocity _ hg := gestureEndVelocity_isSome h hg

/-- **The workspace switch stays in range.**  In every run of operations of a new monitor, the active
    workspace and the one that the switch is about are there, no clamp of a gesture aborts, and the
    next operation removes no workspace if it leaves a switch. -/
theorem switch_in_range {output : Output} {workspaces : List (Workspace Id)}
    {wsIdToActivate : Option WorkspaceId} {baseOptions : Options} {layoutConfig : Option LayoutPart}
    {geometry : Output → OutputGeometry} {nextId : WorkspaceId} {start s : State Id}
    (hnew : ((Monitor.new output workspaces wsIdToActivate baseOptions layoutConfig).run
      geometry).run nextId = some start)
    {events : List (Event Id)} (hready : Run.Along step (fun s e => e.2.Ready s.1) start events)
    (hrun : Run.exec step start events = some s) :
    s.1.activeWorkspaceIdx < s.1.workspaces.length ∧
      (∀ switch ∈ s.1.workspaceSwitch, switch.InRange s.1.workspaces.length) ∧
      s.1.ClampsHold ∧
      ∀ (e : Event Id) (s' : State Id), e.2.Ready s.1 → step s e = some s' →
        s'.1.workspaceSwitch.isSome → s.1.workspaceIds ⊆ s'.1.workspaceIds := by
  have hstart : start.1.InRange := (new_inRange _ _ _ _ _).elim hnew
  have hstep : ∀ (s : State Id) (e : Event Id) s', s.1.InRange → e.2.Ready s.1 →
      step s e = some s' → s.1.Kept s'.1 :=
    fun s e s' hs he hs' => (Op.run_kept hs e.2 he).elim hs'
  have hinRange : s.1.InRange := Run.along_invariant (I := fun s : State Id => s.1.InRange)
    (fun s e s' hs he hs' => (hstep s e s' hs he hs').inRange) hstart hready hrun
  exact ⟨hinRange.active, hinRange.switch, hinRange.clampsHold,
    fun e s' he hs' hswitch => (hstep s e s' hinRange he hs').ids hswitch⟩

/-- A swipe from a workspace to the next one, with a workspace added above meanwhile. -/
def swipeDown : List (Event ℕ) :=
  [.insertWorkspace (someWorkspace 7 (some "web")) 0 true, .workspaceSwitchGestureBegin true 0,
    .workspaceSwitchGestureUpdate true 1 (3 / 5), .addWorkspaceAt 0,
    .workspaceSwitchGestureEnd (some true) (19 / 10)].map fun op => (someGeometry, op)

theorem switch_in_range_swipeDown : ∃ start s : State ℕ,
    ((Monitor.new someOutput [] none Options.default none).run someGeometry).run 0 = some start ∧
      Run.exec step start swipeDown = some s ∧ s.1.activeWorkspaceIdx = 2 ∧
      s.1.workspaces.length = 3 ∧ s.1.ClampsHold := by
  obtain ⟨start, hnew⟩ : ∃ start : State ℕ, ((Monitor.new someOutput [] none Options.default
      none).run someGeometry).run 0 = some start := ⟨_, rfl⟩
  have hswipe : (((Monitor.new someOutput [] none Options.default none).run someGeometry).run
      0).bind (fun start : State ℕ => (Run.exec step start swipeDown).map fun s =>
        (s.1.activeWorkspaceIdx, s.1.workspaces.length)) = some (2, 3) := by
    decide +kernel
  rw [hnew, bind_some] at hswipe
  obtain ⟨s, hrun, hidx⟩ := map_eq_some_iff.mp hswipe
  obtain ⟨hactive, hlen⟩ := Prod.mk.inj hidx
  have hready : Run.Along step (fun s e => e.2.Ready s.1) start swipeDown := fun _ _ =>
    ⟨trivial, fun _ _ => ⟨trivial, fun _ _ => ⟨trivial, fun _ _ => ⟨trivial, fun _ _ =>
      ⟨trivial, trivial⟩⟩⟩⟩⟩
  exact ⟨start, s, hnew, hrun, hactive, hlen, (switch_in_range hnew hready hrun).2.2.1⟩

end Monitor

end Tiri.Layout
