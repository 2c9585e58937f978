import Tiri.Layout.ColumnSteps

/-!
# Which column gets the focus back

When a column is opened and removed with no change of focus in between, the column that was
active before becomes active again.  The scrolling space remembers this by
`activate_prev_column_on_removal` alone (`scrolling.rs`, lines 55–65), and takes the previous
column to be the one on the left.

`History` keeps what the space does not: the columns by numbers of their own, and which of them
was active when each was opened.

Results:
* `focusReturns`: the column on the left is the one that was active, all along a run, exactly when
  no operation puts a column between the two without activating it, and no gesture goes to a column
  that was not opened from the one on its left;
* `adjacency_lost`: what happens otherwise.
-/

namespace Tiri.Layout.ScrollingSpace

open Option List Bool Nat Head

variable {Id : Type}

/-! ## The columns by their numbers -/

/-- The columns of a space, each with a number of its own. -/
structure History where
  columns : List ℕ
  /-- The column that was active when this one was opened. -/
  opener : ℕ → Option ℕ
  next : ℕ
  nodup : columns.Nodup
  lt_next : ∀ column ∈ columns, column < next

namespace History

/-- No columns yet. -/
def empty : History := ⟨[], fun _ => none, 0, .nil, by simp⟩

variable (h : History)

/-- A new column at `idx`. -/
def insert (active idx : ℕ) : History where
  columns := h.columns.insertIdx idx h.next
  opener := Function.update h.opener h.next h.columns[active]?
  next := h.next + 1
  nodup := by
    by_cases hidx : idx ≤ h.columns.length
    · refine (perm_insertIdx h.next h.columns hidx).nodup_iff.mpr ?_
      exact nodup_cons.mpr ⟨fun hmem => lt_irrefl _ (h.lt_next _ hmem), h.nodup⟩
    · rw [insertIdx_of_length_lt (by omega)]
      exact h.nodup
  lt_next := by
    intro column hcolumn
    rcases eq_or_mem_of_mem_insertIdx hcolumn with rfl | hmem
    · exact lt_succ_self _
    · exact lt_succ_of_lt (h.lt_next _ hmem)

def remove (idx : ℕ) : History := { h with
  columns := h.columns.eraseIdx idx
  nodup := h.nodup.eraseIdx idx
  lt_next := fun column hcolumn => h.lt_next column (mem_of_mem_eraseIdx hcolumn) }

/-- The columns after the active one has gone to `idx`. -/
def moved (active idx : ℕ) : List ℕ :=
  match h.columns[active]? with
  | none => h.columns
  | some column => (h.columns.eraseIdx active).insertIdx idx column

theorem moved_perm (h : History) {active idx : ℕ} (hidx : idx < h.columns.length) :
    (h.moved active idx).Perm h.columns := by
  unfold moved
  cases hcolumn : h.columns[active]? with
  | none => exact .refl _
  | some column =>
    obtain ⟨hactive, rfl⟩ := List.getElem?_eq_some_iff.mp hcolumn
    have hlength := length_eraseIdx_of_lt hactive
    exact (perm_insertIdx _ _ (by omega)).trans (getElem_cons_eraseIdx_perm hactive)

def move (active idx : ℕ) : History :=
  if hidx : idx < h.columns.length then { h with
    columns := h.moved active idx
    nodup := (h.moved_perm hidx).nodup_iff.mpr h.nodup
    lt_next := fun column hcolumn => h.lt_next column ((h.moved_perm hidx).mem_iff.mp hcolumn) }
  else h

/-- What one step does. -/
def apply (active : ℕ) : ColumnStep → History
  | .insert idx _ => h.insert active idx
  | .remove idx => h.remove idx
  | .move idx => if active = idx then h else h.move active idx
  | _ => h

/-- The history takes the steps that the space takes. -/
def follow (h : History) (head : Head) : List ColumnStep → History
  | [] => h
  | step :: steps =>
    match head.apply step with
    | none => h
    | some head' => (h.apply head.active step).follow head' steps

/-- The column at `idx` was opened from the one on its left. -/
def Adjacent (idx : ℕ) : Prop :=
  0 < idx ∧ ∃ column prev,
    h.columns[idx]? = some column ∧ h.opener column = some prev ∧ h.columns[idx - 1]? = some prev

/-- The history is about this space. -/
structure Fits (h : History) (head : Head) : Prop where
  count : h.columns.length = head.count
  active : head.active < head.count ∨ head.count = 0 ∧ head.active = 0
  cached : head.cached = true

/-- The flag stands for the column on the left. -/
def Sound (head : Head) : Prop := head.prev = true → h.Adjacent head.active

/-- The step leaves the column on the left where it is; a gesture goes to a column that was opened
from the one on its left. -/
def Careful (head : Head) (steps : List ColumnStep) : Prop :=
  head.prev = true →
    .insert head.active false ∉ steps ∧ ∀ idx, .snap idx ∈ steps → h.Adjacent idx

end History

/-! ## What a step does to the active column and the flag -/

namespace Head

variable {h h' : Head} {idx : ℕ}

theorem activate_cases (hstep : h.activate idx = some h') :
    h.active = idx ∧ h' = h ∨
      h.active ≠ idx ∧ idx < h.count ∧ h' = { h with active := idx, prev := false } := by
  unfold activate at hstep
  split_ifs at hstep with heq hlt
  · exact .inl ⟨heq, (some.inj hstep).symm⟩
  · exact .inr ⟨heq, hlt, (some.inj hstep).symm⟩

/-- A column is opened. -/
theorem insert_cases {activate : Bool} (hstep : h.apply (.insert idx activate) = some h') :
    idx ≤ h.count ∧ h'.count = h.count + 1 ∧ h'.cached = h.cached ∧
      if activate then h'.active = idx ∧ (h'.prev = true → h.count ≠ 0 ∧ idx = h.active + 1)
      else h'.prev = h.prev ∧
        h'.active = if h.count ≠ 0 ∧ idx ≤ h.active then h.active + 1 else h.active := by
  simp only [apply, and_eq_true, decide_eq_true_eq] at hstep
  generalize hshift : (if h.count ≠ 0 ∧ idx ≤ h.active then h.active + 1 else h.active) = shifted
    at hstep ⊢
  have hbounds : shifted = h.active ∨ idx ≤ h.active ∧ shifted = h.active + 1 := by
    split_ifs at hshift with hcond
    · exact .inr ⟨hcond.2, hshift.symm⟩
    · exact .inl hshift.symm
  split_ifs at hstep with hle hactivate
  · obtain ⟨h₁, hactive, rfl⟩ := map_eq_some_iff.mp hstep
    rw [if_pos hactivate]
    rcases activate_cases hactive with ⟨heq, rfl⟩ | ⟨hne, hlt, rfl⟩
    · refine ⟨by omega, rfl, rfl, heq, fun hp => ?_⟩
      simp only [and_eq_true, decide_eq_true_eq] at hp heq
      omega
    · refine ⟨by omega, rfl, rfl, rfl, fun hp => ?_⟩
      simp only [and_eq_true, decide_eq_true_eq] at hp
      omega
  · obtain rfl := some.inj hstep
    rw [if_neg hactivate]
    exact ⟨by omega, rfl, rfl, rfl, rfl⟩

/-- A column is removed.  The flag survives only on the left of it. -/
theorem remove_cases (hstep : h.apply (.remove idx) = some h')
    (hactive : h.active < h.count ∨ h.count = 0 ∧ h.active = 0) :
    idx < h.count ∧ h'.count + 1 = h.count ∧ h'.cached = h.cached ∧
      (h'.active < h'.count ∨ h'.count = 0 ∧ h'.active = 0) ∧
      ((h.prev = true → 0 < h.active) → h'.prev = true →
        h.prev = true ∧ h.active < idx ∧ h'.active = h.active) := by
  simp only [apply] at hstep
  generalize hflag : (if idx + 1 = h.active then false else h.prev) = flag at hstep
  have hprev (hp : flag = true) : h.prev = true := by
    split_ifs at hflag
    · exact absurd (hflag.trans hp) false_ne_true
    · exact hflag.trans hp
  split_ifs at hstep with hle hempty hleft hhere hpos
  · obtain rfl := some.inj hstep
    refine ⟨by omega, by dsimp only; omega, rfl, by dsimp only; omega, fun hsound hp => ?_⟩
    have := hsound (hprev hp)
    omega
  · obtain rfl := some.inj hstep
    exact ⟨by omega, by dsimp only; omega, rfl, by dsimp only; omega,
      fun _ hp => absurd hp false_ne_true⟩
  · rcases activate_cases hstep with ⟨heq, -⟩ | ⟨-, hlt, rfl⟩
    · dsimp only at heq
      omega
    · exact ⟨by omega, by dsimp only; omega, rfl, .inl hlt, fun _ hp => absurd hp false_ne_true⟩
  · obtain rfl := some.inj hstep
    refine ⟨by omega, by dsimp only; omega, rfl, by dsimp only; omega, fun hsound hp => ?_⟩
    have := hsound (hprev hp)
    omega
  · rcases activate_cases hstep with ⟨heq, rfl⟩ | ⟨hne, hlt, rfl⟩
    · dsimp only at heq
      refine ⟨by omega, by dsimp only; omega, rfl, by dsimp only; omega, fun hsound hp => ?_⟩
      have hne : idx ≠ h.active := fun heq => hhere ⟨heq, hp⟩
      exact ⟨hprev hp, by omega, rfl⟩
    · exact ⟨by omega, by dsimp only; omega, rfl, .inl hlt, fun _ hp => absurd hp false_ne_true⟩

end Head

namespace History

variable {h : History} {head head' : Head}

/-! ## The history fits -/

theorem move_length (h : History) (active idx : ℕ) :
    (h.move active idx).columns.length = h.columns.length := by
  unfold move
  split_ifs with hidx
  · exact (h.moved_perm hidx).length_eq
  · rfl

variable {step : ColumnStep} {active : ℕ}

theorem Fits.apply (hfits : h.Fits head) (hstep : head.apply step = some head') :
    (h.apply head.active step).Fits head' := by
  obtain ⟨hcount, hactive, hcached⟩ := hfits
  cases step with
  | insert idx activate =>
    obtain ⟨hle, hcount', hcached', hthen⟩ := insert_cases hstep
    refine ⟨?_, ?_, hcached'.trans hcached⟩
    · rw [hcount', ← hcount]
      exact length_insertIdx_of_le_length (by omega) _
    · split_ifs at hthen with hactivate hshift <;> omega
  | remove idx =>
    obtain ⟨hlt, hcount', hcached', hactive', -⟩ := remove_cases hstep hactive
    refine ⟨?_, hactive', hcached'.trans hcached⟩
    have hlength := length_eraseIdx_of_lt (hcount ▸ hlt)
    change (h.columns.eraseIdx idx).length = _
    omega
  | activate idx =>
    rcases activate_cases hstep with ⟨-, rfl⟩ | ⟨-, hlt, rfl⟩
    · exact ⟨hcount, hactive, hcached⟩
    · exact ⟨hcount, .inl hlt, hcached⟩
  | move idx =>
    unfold History.apply
    dsimp only
    unfold Head.apply at hstep
    dsimp only at hstep
    split_ifs at hstep ⊢ with heq hlt
    · obtain rfl := some.inj hstep
      exact ⟨hcount, hactive, hcached⟩
    · obtain ⟨hne, -⟩ | ⟨-, hidx, rfl⟩ := activate_cases hstep
      · exact absurd hne heq
      · exact ⟨(move_length h _ _).trans hcount, .inl hidx, hcached⟩
  | snap idx =>
    unfold Head.apply at hstep
    dsimp only at hstep
    split_ifs at hstep with hlt
    obtain rfl := some.inj hstep
    exact ⟨hcount, .inl hlt, hcached⟩
  | setPrev prev =>
    obtain rfl := some.inj hstep
    exact ⟨hcount, hactive, hcached⟩

variable {steps : List ColumnStep}

/-- **The history fits** after every operation. -/
theorem Fits.follow (hfits : h.Fits head) (hrun : head.run steps = some head') :
    (h.follow head steps).Fits head' := by
  induction steps generalizing h head with
  | nil =>
    obtain rfl := some.inj hrun
    exact hfits
  | cons step steps ih =>
    obtain ⟨head₁, hstep, hrun⟩ := bind_eq_some_iff.mp hrun
    rw [History.follow, hstep]
    exact ih (hfits.apply hstep) hrun

/-! ## The column on the left -/

/-- What was opened before has the opener that it had. -/
theorem insert_opener {column idx position : ℕ} (hcolumn : h.columns[position]? = some column) :
    (h.insert active idx).opener column = h.opener column :=
  Function.update_of_ne (Nat.ne_of_lt (h.lt_next _ (mem_of_getElem? hcolumn))) _ _

/-- A new column is opened from the active one, on its right. -/
theorem adjacent_inserted (hactive : active < h.columns.length) :
    (h.insert active (active + 1)).Adjacent (active + 1) := by
  refine ⟨succ_pos _, h.next, h.columns.get ⟨active, hactive⟩, ?_, ?_, ?_⟩
  · exact List.getElem?_insertIdx_self.trans (if_pos hactive)
  · exact (Function.update_self ..).trans (List.getElem?_eq_getElem hactive)
  · exact (List.getElem?_insertIdx_of_lt (lt_succ_self _)).trans
      (List.getElem?_eq_getElem hactive)

/-- **A column opens and is not activated.**  Only the place between the active column and the one
on its left matters. -/
theorem adjacent_inserted_iff {idx : ℕ} (hadjacent : h.Adjacent active) :
    (h.insert active idx).Adjacent (if idx ≤ active then active + 1 else active) ↔
      idx ≠ active := by
  obtain ⟨hpos, column, prev, hcolumn, hopener, hprev⟩ := hadjacent
  have hopener' : (h.insert active idx).opener column = some prev :=
    (insert_opener hcolumn).trans hopener
  by_cases hle : idx ≤ active
  · rw [if_pos hle]
    have hcolumn' : (h.insert active idx).columns[active + 1]? = some column :=
      (List.getElem?_insertIdx_of_gt (by omega)).trans hcolumn
    constructor
    · -- The new column would be the opener of an older one.
      rintro ⟨-, column', prev', hcolumn'', hopener'', hprev'⟩ rfl
      obtain rfl := some.inj (hcolumn'.symm.trans hcolumn'')
      obtain rfl := some.inj (hopener'.symm.trans hopener'')
      have hidx : idx ≤ h.columns.length := by
        have := (List.getElem?_eq_some_iff.mp hcolumn).1
        omega
      have hnew : (h.insert idx idx).columns[idx]? = some h.next :=
        List.getElem?_insertIdx_self.trans (if_pos hidx)
      have hlt := h.lt_next _ (mem_of_getElem? hprev)
      rw [Nat.add_sub_cancel, hnew, some.injEq] at hprev'
      omega
    · intro hne
      refine ⟨succ_pos _, column, prev, hcolumn', hopener', ?_⟩
      exact (List.getElem?_insertIdx_of_gt (by omega)).trans hprev
  · rw [if_neg hle]
    refine ⟨fun _ => by omega, fun _ => ⟨hpos, column, prev, ?_, hopener', ?_⟩⟩
    · exact (List.getElem?_insertIdx_of_lt (by omega)).trans hcolumn
    · exact (List.getElem?_insertIdx_of_lt (by omega)).trans hprev

theorem sound_of_prev (hprev : head.prev = false) : h.Sound head :=
  fun hp => absurd (hprev.symm.trans hp) false_ne_true

/-- A step that neither opens a column nor ends a gesture. -/
theorem careful_singleton (hopens : ∀ idx, step ≠ .insert idx false)
    (hsnaps : ∀ idx, step ≠ .snap idx) : h.Careful head [step] := by
  intro _
  constructor
  · intro hmem
    exact hopens _ (mem_singleton.mp hmem).symm
  · intro idx hmem
    exact absurd (mem_singleton.mp hmem).symm (hsnaps idx)

/-- **One step.** -/
theorem sound_apply (hfits : h.Fits head) (hsound : h.Sound head)
    (hstep : head.apply step = some head') (hflag : ∀ prev, step ≠ .setPrev prev) :
    (h.apply head.active step).Sound head' ↔ h.Careful head [step] := by
  have hcount := hfits.count
  cases step with
  | insert idx activate =>
    obtain ⟨hle, -, -, hthen⟩ := insert_cases hstep
    cases activate with
    | true =>
      obtain ⟨hactive, hopened⟩ := hthen
      refine iff_of_true (fun hp => ?_) (careful_singleton (by simp) (by simp))
      obtain ⟨hne, rfl⟩ := hopened hp
      rw [hactive]
      exact adjacent_inserted (by omega)
    | false =>
      obtain ⟨hprev, hactive⟩ := hthen
      unfold Sound Careful
      rw [hprev, hactive]
      refine imp_congr_right fun hp => ?_
      have hadjacent := hsound hp
      have hpos := hadjacent.1
      have hcond : (head.count ≠ 0 ∧ idx ≤ head.active) ↔ idx ≤ head.active := by
        have := hfits.active
        omega
      simp only [hcond]
      refine (adjacent_inserted_iff hadjacent).trans ?_
      simp [eq_comm]
  | remove idx =>
    obtain ⟨-, -, -, -, hkept⟩ := remove_cases hstep hfits.active
    refine iff_of_true (fun hp => ?_) (careful_singleton (by simp) (by simp))
    obtain ⟨hp', hlt, hactive⟩ := hkept (fun hp => (hsound hp).1) hp
    obtain ⟨hpos, column, prev, hcolumn, hopener, hprev⟩ := hsound hp'
    rw [hactive]
    refine ⟨hpos, column, prev, ?_, hopener, ?_⟩
    · exact (List.getElem?_eraseIdx_of_lt hlt).trans hcolumn
    · exact (List.getElem?_eraseIdx_of_lt (by omega)).trans hprev
  | activate idx =>
    refine iff_of_true ?_ (careful_singleton (by simp) (by simp))
    rcases activate_cases hstep with ⟨-, rfl⟩ | ⟨-, -, rfl⟩
    · exact hsound
    · exact sound_of_prev rfl
  | move idx =>
    refine iff_of_true ?_ (careful_singleton (by simp) (by simp))
    unfold History.apply
    dsimp only
    unfold Head.apply at hstep
    dsimp only at hstep
    split_ifs at hstep ⊢ with heq hlt
    · obtain rfl := some.inj hstep
      exact hsound
    · rcases activate_cases hstep with ⟨hne, -⟩ | ⟨-, -, rfl⟩
      · exact absurd hne heq
      · exact sound_of_prev rfl
  | snap idx =>
    unfold Head.apply at hstep
    dsimp only at hstep
    split_ifs at hstep with hlt
    obtain rfl := some.inj hstep
    refine imp_congr_right fun _ => ?_
    simp [History.apply]
  | setPrev prev => exact absurd rfl (hflag prev)

/-- **One operation.** -/
theorem sound_follow (hfits : h.Fits head) (hsound : h.Sound head)
    (hshape : OneStep steps ∨ head.Settles steps) (hrun : head.run steps = some head') :
    (h.follow head steps).Sound head' ↔ h.Careful head steps := by
  rcases hshape with (rfl | ⟨step, rfl, hflag⟩) | ⟨hopens, hsnaps, hprev⟩
  · obtain rfl := some.inj hrun
    exact iff_of_true hsound fun _ => ⟨by simp, by simp⟩
  · rw [run_singleton] at hrun
    rw [History.follow, hrun]
    exact sound_apply hfits hsound hrun hflag
  · exact iff_of_true (sound_of_prev (hprev _ hrun)) fun _ =>
      ⟨hopens _, fun idx hmem => absurd hmem (hsnaps idx)⟩

end History

/-! ## Focus goes back -/

/-- A space and its history. -/
structure World (Id : Type) where
  space : ScrollingSpace Id
  history : History

namespace World

variable [DecidableEq Id]

/-- Nothing is open. -/
def new (viewSize : Size) (parentArea : Rectangle) (scale : ℚ) (options : Options) : World Id :=
  ⟨.new viewSize parentArea scale options, .empty⟩

variable (w : World Id)

/-- The space takes an operation, and the history its steps. -/
def step (op : Op Id) : Option (World Id) :=
  (op.run w.space).map fun space => ⟨space, w.history.follow w.space.head (op.steps w.space)⟩

/-- When the flag is set, the column on the left of the active one is the one that was active when
the active one was opened, and it is active again once the active one is removed. -/
def ReturnsFocus : Prop :=
  w.space.activatePrevColumnOnRemoval = true →
    ∃ column prev, w.history.columns[w.space.activeColumnIdx]? = some column ∧
      w.history.opener column = some prev ∧
      0 < w.space.activeColumnIdx ∧
      w.history.columns[w.space.activeColumnIdx - 1]? = some prev ∧
      ∃ removed space, w.space.removeColumnByIdx w.space.activeColumnIdx = some (removed, space) ∧
        (w.history.remove w.space.activeColumnIdx).columns[space.activeColumnIdx]? = some prev

/-- The operation opens no column between the active one and the one on its left without activating
it, and ends no gesture of the view on a column that was not opened from the one on its left. -/
def Careful (op : Op Id) : Prop := w.history.Careful w.space.head (op.steps w.space)

/-- The history is about the space. -/
def Fits : Prop := w.history.Fits w.space.head

omit [DecidableEq Id] in
theorem fits_new (viewSize : Size) (parentArea : Rectangle) (scale : ℚ) (options : Options) :
    (new viewSize parentArea scale options : World Id).Fits := ⟨rfl, .inr ⟨rfl, rfl⟩, rfl⟩

theorem Fits.step {w w' : World Id} {op : Op Id} (hfits : w.Fits) (hstep : w.step op = some w') :
    w'.Fits := by
  obtain ⟨space, hrun, rfl⟩ := map_eq_some_iff.mp hstep
  exact History.Fits.follow hfits (Op.run_steps op space hrun)

/-- **Removing the active column** activates the one on its left, while the flag is set. -/
theorem removeActiveColumn_active {s : ScrollingSpace Id} (hcached : s.data.length = s.columns.length)
    (hactive : s.activeColumnIdx < s.columns.length) (hpos : 0 < s.activeColumnIdx)
    (hflag : s.activatePrevColumnOnRemoval = true) :
    ∃ removed s', s.removeColumnByIdx s.activeColumnIdx = some (removed, s') ∧
      s'.activeColumnIdx = s.activeColumnIdx - 1 := by
  have hcolumn := List.getElem?_eq_getElem hactive
  have hdata := List.getElem?_eq_getElem (hcached.symm ▸ hactive : s.activeColumnIdx < s.data.length)
  have hlength := length_eraseIdx_of_lt hactive
  have hne : ¬(s.columns.eraseIdx s.activeColumnIdx).isEmpty = true := by
    rw [isEmpty_iff_length_eq_zero]
    omega
  have hkept : True ∧ (if s.activeColumnIdx + 1 = s.activeColumnIdx then false
      else s.activatePrevColumnOnRemoval) = true := by
    rw [if_neg (by omega)]
    exact ⟨trivial, hflag⟩
  unfold removeColumnByIdx Vec.removeAt
  rw [hcolumn, hdata]
  simp only [map_some, bind_eq_bind, bind_some]
  rw [if_neg hne, if_neg (lt_irrefl _), if_pos hkept, if_pos hpos, activateColumn,
    if_neg (show s.activeColumnIdx ≠ s.activeColumnIdx - 1 by omega),
    if_pos (show s.activeColumnIdx - 1 < (s.columns.eraseIdx s.activeColumnIdx).length by omega)]
  exact ⟨_, _, rfl, rfl⟩

/-- The flag stands for the column on the left exactly when the focus goes there. -/
theorem returnsFocus_iff {w : World Id} (hfits : w.Fits) :
    w.ReturnsFocus ↔ w.history.Sound w.space.head := by
  refine imp_congr_right fun hflag => ?_
  constructor
  · rintro ⟨column, prev, hcolumn, hopener, hpos, hprev, -⟩
    exact ⟨hpos, column, prev, hcolumn, hopener, hprev⟩
  · rintro ⟨hpos, column, prev, hcolumn, hopener, hprev⟩
    have hactive : w.space.activeColumnIdx < w.space.columns.length := by
      have := (List.getElem?_eq_some_iff.mp hcolumn).1
      have hcount : w.history.columns.length = w.space.columns.length := hfits.count
      rw [head_active] at this
      omega
    obtain ⟨removed, space, hremove, hspace⟩ :=
      removeActiveColumn_active (of_decide_eq_true hfits.cached) hactive hpos hflag
    refine ⟨column, prev, hcolumn, hopener, hpos, hprev, removed, space, hremove, ?_⟩
    rw [hspace]
    refine (List.getElem?_eraseIdx_of_lt ?_).trans hprev
    exact sub_lt hpos one_pos

/-- **Focus returns** all along a run, exactly when every operation of the run is careful. -/
theorem focusReturns (viewSize : Size) (parentArea : Rectangle) (scale : ℚ) (options : Options)
    (ops : List (Op Id)) :
    Run.Always step ReturnsFocus (new viewSize parentArea scale options) ops ↔
      Run.Along step Careful (new viewSize parentArea scale options) ops := by
  have hfits : (new viewSize parentArea scale options : World Id).Fits := fits_new _ _ _ _
  refine Run.always_iff_along (fun _ _ _ hfits hstep => hfits.step hstep) ?_ hfits ?_
  · intro w op w' hfits hreturns hstep
    obtain ⟨space, hrun, rfl⟩ := map_eq_some_iff.mp hstep
    rw [returnsFocus_iff (hfits.step hstep)]
    exact History.sound_follow hfits ((returnsFocus_iff hfits).mp hreturns) op.steps_shape
      (Op.run_steps op space hrun)
  · exact (returnsFocus_iff hfits).mpr (History.sound_of_prev rfl)

/-! ## A column in between -/

/-- Two windows open, and a third one is put to the right of the first without being activated. -/
def between : List (Op ℕ) :=
  [.addTile none (plainTile 1) true (.proportion (1 / 2)) false,
    .addTile none (plainTile 2) true (.proportion (1 / 2)) false,
    .addTileRightOf 1 (plainTile 3) false (.proportion (1 / 2)) false]

/-- **The column in between** gets the focus instead of the one that had it. -/
theorem adjacency_lost :
    ∃ w, Run.exec step (new ⟨1280, 720⟩ ⟨0, 0, ⟨1280, 720⟩⟩ 1 Options.default) between = some w ∧
      ¬w.ReturnsFocus := by
  have hfacts : (Run.exec step (new ⟨1280, 720⟩ ⟨0, 0, ⟨1280, 720⟩⟩ 1 Options.default) between).map (fun w =>
      (w.space.activatePrevColumnOnRemoval, w.space.activeColumnIdx, w.history.columns,
        w.history.opener 1)) = some (true, 2, [0, 2, 1], some 0) := by decide +kernel
  obtain ⟨w, hw, hfacts⟩ := map_eq_some_iff.mp hfacts
  simp only [Prod.mk.injEq] at hfacts
  obtain ⟨hflag, hactive, hcolumns, hopener⟩ := hfacts
  refine ⟨w, hw, fun hreturns => ?_⟩
  obtain ⟨column, prev, hcolumn, hprev_opener, -, hprev, -⟩ := hreturns hflag
  rw [hactive, hcolumns] at hcolumn hprev
  obtain rfl : 1 = column := some.inj hcolumn
  obtain rfl : 2 = prev := some.inj hprev
  rw [hopener] at hprev_opener
  exact absurd hprev_opener (by decide)

end World

end Tiri.Layout.ScrollingSpace
