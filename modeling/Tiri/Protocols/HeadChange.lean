import Tiri.Protocols.HeadSync

/-!
# Agreement of a head with its output

A head that a client has made up agrees with an output in its modes, in the current mode, in the
logical output and in adaptive sync.

Results:
* `introduced_tracks`: a new head agrees exactly when every refresh rate can be told;
* `HeadView.Diff.agrees_iff`: a head that agreed does so after a change exactly when, besides that,
  the current mode keeps its index where there are more modes or fewer.
-/

namespace Tiri.Protocols.OutputManagement

open Option List

/-! ## Agreement with an output -/

/-- The sizes and the refresh rates of the modes are those of the output, in order. -/
def HeadView.AgreesModes (conf : NiriIpc.Output) (hv : HeadView) : Prop :=
  hv.modes.map (fun m => (m.size, m.refresh)) =
    conf.modes.map fun mode => (some (mode.width, mode.height), some mode.refreshRate)

/-- The head is enabled where the output is, and then has the current mode of it. -/
def HeadView.AgreesCurrent (conf : NiriIpc.Output) (hv : HeadView) : Prop :=
  hv.enabled = some conf.currentMode.isSome ∧ ∀ i, conf.currentMode = some i →
    ∃ m, hv.modes[i]? = some m ∧ hv.currentMode = some m.id

/-- The position, the transform and the scale are those of the logical output. -/
def HeadView.AgreesLogical (conf : NiriIpc.Output) (hv : HeadView) : Prop :=
  ∀ logical, conf.logical = some logical →
    hv.position = some (logical.x, logical.y) ∧ hv.transform = some logical.transform ∧
      hv.scale = some logical.scale

/-- Adaptive sync is that of the output, where the client knows of it. -/
def HeadView.AgreesAdaptiveSync (version : ℕ) (conf : NiriIpc.Output) (hv : HeadView) : Prop :=
  evtAdaptiveSyncSince ≤ version → hv.adaptiveSync = some conf.vrrEnabled

/-- The head that a client has made up agrees with the output. -/
structure HeadView.Agrees (version : ℕ) (conf : NiriIpc.Output) (hv : HeadView) : Prop where
  modes : hv.AgreesModes conf
  currentMode : hv.AgreesCurrent conf
  logical : hv.AgreesLogical conf
  adaptiveSync : hv.AgreesAdaptiveSync version conf

/-- The head has a mode for each mode of the output, and what is known of their refresh rates could
be told. -/
structure HeadView.Tracks (conf : NiriIpc.Output) (hv : HeadView) : Prop where
  length : hv.modes.length = conf.modes.length
  fits : ∀ m ∈ hv.modes, ∀ refresh, m.refresh = some refresh → refresh ≤ i32Max

/-- Every refresh rate of the output can be told. -/
def Fits (conf : NiriIpc.Output) : Prop := ∀ mode ∈ conf.modes, mode.refreshRate ≤ i32Max

/-- The events convey the change of the output: every refresh rate can be told, and where there are
more modes or fewer, the current mode keeps its index or there is none. -/
def Conveys (old conf : NiriIpc.Output) : Prop :=
  Fits conf ∧
    (old.modes.length = conf.modes.length ∨
      ∀ i, conf.currentMode = some i → old.currentMode = some i)

/-- The refresh rates that a client knows could be told. -/
theorem fits_of_agreesModes {conf : NiriIpc.Output} {hv : HeadView} (htracks : hv.Tracks conf)
    (hagrees : hv.AgreesModes conf) : Fits conf := by
  intro mode hmode
  have hmem : (some (mode.width, mode.height), some mode.refreshRate) ∈
      hv.modes.map fun m => (m.size, m.refresh) := by
    rw [hagrees]
    exact mem_map_of_mem hmode
  obtain ⟨m, hm, heq⟩ := mem_map.mp hmem
  exact htracks.fits m hm mode.refreshRate (congrArg Prod.snd heq)

/-- The modes of a head after each of them was told of a mode of the output. -/
structure SentModes (f : ModeView → NiriIpc.Mode → ModeView) : Prop where
  size : ∀ m mode, (f m mode).size = some (mode.width, mode.height)
  refresh : ∀ m mode, (f m mode).refresh =
    if mode.refreshRate ≤ i32Max then some mode.refreshRate else m.refresh

theorem sentModes_sent : SentModes ModeView.sent := by
  constructor
  · intro m mode
    unfold ModeView.sent
    by_cases hfits : mode.refreshRate ≤ i32Max
    · simp only [if_pos hfits]
      rfl
    · simp only [if_neg hfits]
      rfl
  · intro m mode
    unfold ModeView.sent
    by_cases hfits : mode.refreshRate ≤ i32Max
    · simp only [if_pos hfits]
      rfl
    · simp only [if_neg hfits]
      rfl

theorem sentModes_introduced : SentModes ModeView.introduced := by
  constructor
  · intro m mode
    unfold ModeView.introduced
    by_cases hfits : mode.refreshRate ≤ i32Max <;> by_cases hpreferred : mode.isPreferred = true <;>
      simp only [hfits, hpreferred, if_true, if_false] <;> rfl
  · intro m mode
    unfold ModeView.introduced
    by_cases hfits : mode.refreshRate ≤ i32Max <;> by_cases hpreferred : mode.isPreferred = true <;>
      simp only [hfits, hpreferred, if_true, if_false] <;> rfl

section SentModes

variable {f : ModeView → NiriIpc.Mode → ModeView} {ms : List ModeView} {confs : List NiriIpc.Mode}

/-- What is known of the refresh rates could be told. -/
theorem SentModes.fits (hf : SentModes f)
    (hms : ∀ m ∈ ms, ∀ refresh, m.refresh = some refresh → refresh ≤ i32Max) :
    ∀ m ∈ ms.zipWith f confs, ∀ refresh, m.refresh = some refresh → refresh ≤ i32Max := by
  induction ms generalizing confs with
  | nil =>
    intro m hm
    exact absurd hm not_mem_nil
  | cons m₀ ms ih =>
    cases confs with
    | nil =>
      intro m hm
      exact absurd hm not_mem_nil
    | cons mode confs =>
      intro m hm refresh hrefresh
      rw [zipWith_cons_cons, mem_cons] at hm
      rcases hm with rfl | hm
      · rw [hf.refresh] at hrefresh
        by_cases hfits : mode.refreshRate ≤ i32Max
        · rw [if_pos hfits] at hrefresh
          exact some.inj hrefresh ▸ hfits
        · rw [if_neg hfits] at hrefresh
          exact hms m₀ (mem_cons_self ..) refresh hrefresh
      · exact ih (fun m hm => hms m (mem_cons_of_mem _ hm)) m hm refresh hrefresh

/-- The modes agree with the output exactly when every refresh rate can be told. -/
theorem SentModes.agree_iff (hf : SentModes f)
    (hms : ∀ m ∈ ms, ∀ refresh, m.refresh = some refresh → refresh ≤ i32Max)
    (hlength : confs.length ≤ ms.length) :
    ((ms.zipWith f confs).map fun m => (m.size, m.refresh)) =
        (confs.map fun mode => (some (mode.width, mode.height), some mode.refreshRate)) ↔
      ∀ mode ∈ confs, mode.refreshRate ≤ i32Max := by
  induction confs generalizing ms with
  | nil =>
    rw [zipWith_nil_right]
    exact iff_of_true rfl fun _ h => absurd h not_mem_nil
  | cons mode confs ih =>
    cases ms with
    | nil => exact absurd hlength (Nat.not_succ_le_zero _)
    | cons m ms =>
      have hrest := ih (fun m hm => hms m (mem_cons_of_mem _ hm))
        (Nat.le_of_succ_le_succ hlength)
      have hfirst : (f m mode).refresh = some mode.refreshRate ↔ mode.refreshRate ≤ i32Max := by
        rw [hf.refresh]
        by_cases hfits : mode.refreshRate ≤ i32Max
        · rw [if_pos hfits]
          exact iff_of_true rfl hfits
        · rw [if_neg hfits]
          exact iff_of_false
            (fun heq => hfits (hms m (mem_cons_self ..) _ heq)) hfits
      rw [zipWith_cons_cons, map_cons, map_cons, List.cons.injEq, hrest,
        Prod.mk.injEq, hf.size, forall_mem_cons, hfirst]
      exact and_congr_left fun _ => and_iff_right rfl

end SentModes

/-! ## New heads -/

section Introduced

variable {version : ℕ} {conf : NiriIpc.Output} {hv : HeadView}

theorem receiveAll_append (hv : HeadView) (events events' : List HeadEvent) :
    hv.receiveAll (events ++ events') = (hv.receiveAll events).receiveAll events' :=
  foldl_append ..

theorem adaptiveSync_adaptiveSyncEvents (hversion : evtAdaptiveSyncSince ≤ version) :
    (hv.receiveAll (ClientData.adaptiveSyncEvents version conf)).adaptiveSync =
      some conf.vrrEnabled := by
  unfold ClientData.adaptiveSyncEvents
  rw [if_pos hversion]
  rfl

/-- Adaptive sync is all that is told of it. -/
theorem receiveAll_adaptiveSyncEvents (hv : HeadView) :
    hv.receiveAll (ClientData.adaptiveSyncEvents version conf) = { hv with adaptiveSync :=
        (hv.receiveAll (ClientData.adaptiveSyncEvents version conf)).adaptiveSync } := by
  unfold ClientData.adaptiveSyncEvents
  by_cases hversion : evtAdaptiveSyncSince ≤ version
  · rw [if_pos hversion]
    rfl
  · rw [if_neg hversion]
    rfl

/-- Make, model and serial are all that is told of the identity. -/
theorem receiveAll_identityEvents (hv : HeadView) :
    let hv' := hv.receiveAll (ClientData.identityEvents version conf)
    hv' = { hv with make := hv'.make, model := hv'.model, serialNumber := hv'.serialNumber } := by
  unfold ClientData.identityEvents
  cases conf.serial <;> split_ifs <;> rfl

/-- What a new head has after it was described. -/
theorem receiveAll_descriptionEvents (version : ℕ) (conf : NiriIpc.Output) (hv : HeadView) :
    let hv' := hv.receiveAll (ClientData.descriptionEvents version conf)
    hv'.modes = hv.modes ∧ hv'.currentMode = hv.currentMode ∧
      hv'.enabled = some conf.currentMode.isSome ∧
      (∀ logical, conf.logical = some logical →
        hv'.position = some (logical.x, logical.y) ∧ hv'.transform = some logical.transform ∧
          hv'.scale = some logical.scale) ∧
      (evtAdaptiveSyncSince ≤ version → hv'.adaptiveSync = some conf.vrrEnabled) := by
  unfold ClientData.descriptionEvents
  simp only [receiveAll_append]
  rw [receiveAll_adaptiveSyncEvents, receiveAll_identityEvents]
  refine ⟨?_, ?_, rfl, ?_, adaptiveSync_adaptiveSyncEvents⟩
  · cases conf.logical <;> rfl
  · cases conf.logical <;> rfl
  · intro logical hlogical
    rw [hlogical]
    exact ⟨rfl, rfl, rfl⟩

/-- A new head tracks its output, and agrees with it exactly when every refresh rate can be told. -/
theorem introduced_tracks (version : ℕ) {fresh : List ℕ} (hlength : fresh.length = conf.modes.length)
    {current : Option ℕ} (hcurrent : ∀ i, conf.currentMode = some i → current = fresh[i]?)
    (id : ℕ) :
    let hv := HeadView.introduced version conf id
      ((fresh.map ModeView.new).zipWith ModeView.introduced conf.modes) current
    hv.Tracks conf ∧ (hv.Agrees version conf ↔ Fits conf) := by
  obtain ⟨ms, hms⟩ : ∃ ms, ms = (fresh.map ModeView.new).zipWith ModeView.introduced conf.modes :=
    ⟨_, rfl⟩
  have hunknown : ∀ m ∈ fresh.map ModeView.new, ∀ refresh, m.refresh = some refresh →
      refresh ≤ i32Max := by
    intro m hm refresh hrefresh
    obtain ⟨id, -, rfl⟩ := mem_map.mp hm
    cases hrefresh
  have hids : ms.map ModeView.id = fresh := by
    rw [hms]
    exact modeIds_introduced fresh conf.modes hlength
  rw [← hms]
  obtain ⟨hmodes, hcurrentMode, henabled, hlogical, hadaptive⟩ :=
    receiveAll_descriptionEvents version conf
      { (HeadView.new id).receiveAll (ClientData.introductionEvents conf) with
        modes := ms
        currentMode := current }
  have hmodes : (HeadView.introduced version conf id ms current).modes = ms := hmodes
  have hlength' : ms.length = conf.modes.length := by
    rw [← hlength, ← hids, length_map]
  have hagree := sentModes_introduced.agree_iff hunknown
    (by rw [length_map, hlength] : conf.modes.length ≤ (fresh.map ModeView.new).length)
  rw [← hms] at hagree
  refine ⟨⟨?_, ?_⟩, fun hagrees => ?_, fun hfits => ⟨?_, ⟨henabled, ?_⟩, hlogical, hadaptive⟩⟩
  · rw [hmodes, hlength']
  · rw [hmodes, hms]
    exact sentModes_introduced.fits hunknown
  · have hagrees := hagrees.modes
    unfold HeadView.AgreesModes at hagrees
    rw [hmodes] at hagrees
    exact hagree.mp hagrees
  · unfold HeadView.AgreesModes
    rw [hmodes]
    exact hagree.mpr hfits
  · intro i hi
    have hlt : i < ms.length := by
      rw [hlength']
      exact conf.currentMode_lt i hi
    refine ⟨ms[i], by rw [hmodes, List.getElem?_eq_getElem hlt], ?_⟩
    have hget : fresh[i]? = some ms[i].id := by
      rw [← hids, List.getElem?_map, List.getElem?_eq_getElem hlt, map_some]
    rw [← hget, ← hcurrent i hi]
    exact hcurrentMode

end Introduced

/-! ## Heads that change -/

section Changed

variable {version : ℕ} {old conf : NiriIpc.Output} {hv hv' hv₂ : HeadView}

/-- Adaptive sync as it changes. -/
def HeadView.diffVrr (version : ℕ) (old conf : NiriIpc.Output) (hv : HeadView) : HeadView :=
  if old.vrrEnabled ≠ conf.vrrEnabled then
    hv.receiveAll (ClientData.adaptiveSyncEvents version conf)
  else hv

/-- The modes as they change: each is told of a mode of the output, and the new ones are fresh. -/
def HeadView.DiffModes (old conf : NiriIpc.Output) (hv hv' : HeadView) : Prop :=
  if old.modes ≠ conf.modes then
    ∃ fresh : List ℕ, conf.modes.length ≤ hv.modes.length + fresh.length ∧
      hv' = { hv with
        modes := (hv.modes ++ fresh.map ModeView.new).zipWith ModeView.sent conf.modes }
  else hv' = hv

/-- The current mode as it changes. -/
def HeadView.diffCurrentMode (old conf : NiriIpc.Output) (hv : HeadView) : HeadView :=
  match old.currentMode, conf.currentMode with
  | some oldIndex, some newIndex =>
    if old.modes.length = conf.modes.length ∧ (old.modes ≠ conf.modes ∨ oldIndex ≠ newIndex) then
      hv.withCurrentMode newIndex
    else hv
  | some _, none => hv.receiveAll [.enabled false]
  | none, some newIndex =>
    if old.modes.length = conf.modes.length then
      (hv.receiveAll [.enabled true]).withCurrentMode newIndex
    else hv
  | none, none => hv

/-- The logical output as it changes. -/
def HeadView.diffLogical (old conf : NiriIpc.Output) (hv : HeadView) : HeadView :=
  match old.logical, conf.logical with
  | some oldLogical, some newLogical =>
    if oldLogical ≠ newLogical then
      hv.receiveAll (ClientData.logicalChangeEvents oldLogical newLogical)
    else hv
  | none, some newLogical => hv.receiveAll (ClientData.logicalEvents newLogical)
  | some _, none => hv
  | none, none => hv

/-- Only adaptive sync changes. -/
theorem diffVrr_eq (version : ℕ) (old conf : NiriIpc.Output) (hv : HeadView) :
    hv.diffVrr version old conf =
      { hv with adaptiveSync := (hv.diffVrr version old conf).adaptiveSync } := by
  unfold HeadView.diffVrr
  by_cases hvrr : old.vrrEnabled = conf.vrrEnabled
  · rw [if_neg (not_not.mpr hvrr)]
  · rw [if_pos hvrr]
    exact receiveAll_adaptiveSyncEvents hv

/-- Only what is known of the current mode changes. -/
theorem diffCurrentMode_eq (old conf : NiriIpc.Output) (hv : HeadView) :
    hv.diffCurrentMode old conf = { hv with
      enabled := (hv.diffCurrentMode old conf).enabled
      currentMode := (hv.diffCurrentMode old conf).currentMode } := by
  have hcurrent : ∀ (hv : HeadView) i, hv.withCurrentMode i =
      { hv with currentMode := (hv.withCurrentMode i).currentMode } := by
    intro hv i
    unfold HeadView.withCurrentMode
    cases hv.modeIds[i]? <;> rfl
  unfold HeadView.diffCurrentMode
  cases old.currentMode with
  | none =>
    cases conf.currentMode with
    | none => rfl
    | some newIndex =>
      by_cases hlength : old.modes.length = conf.modes.length
      · simp only [if_pos hlength]
        rw [hcurrent]
        rfl
      · simp only [if_neg hlength]
  | some oldIndex =>
    cases conf.currentMode with
    | none => rfl
    | some newIndex =>
      by_cases hsent : old.modes.length = conf.modes.length ∧
          (old.modes ≠ conf.modes ∨ oldIndex ≠ newIndex)
      · simp only [if_pos hsent]
        rw [hcurrent]
      · simp only [if_neg hsent]

/-- Only what is known of the logical output changes. -/
theorem diffLogical_eq (old conf : NiriIpc.Output) (hv : HeadView) :
    hv.diffLogical old conf = { hv with
      position := (hv.diffLogical old conf).position
      transform := (hv.diffLogical old conf).transform
      scale := (hv.diffLogical old conf).scale } := by
  unfold HeadView.diffLogical
  cases old.logical with
  | none => cases conf.logical <;> rfl
  | some oldLogical =>
    cases conf.logical with
    | none => rfl
    | some newLogical =>
      by_cases hlogical : oldLogical = newLogical
      · simp only [if_neg (not_not.mpr hlogical)]
      · simp only [if_pos hlogical]
        unfold ClientData.logicalChangeEvents
        split_ifs <;> rfl

/-- Modes with the same handle are at the same index. -/
theorem index_eq_of_id_eq (hnodup : hv.modeIds.Nodup) {i j : ℕ} {m m' : ModeView}
    (hi : hv.modes[i]? = some m) (hj : hv.modes[j]? = some m') (hid : m.id = m'.id) : i = j := by
  have hi' : hv.modeIds[i]? = some m.id := by
    rw [HeadView.modeIds, List.getElem?_map, hi, map_some]
  have hj' : hv.modeIds[j]? = some m.id := by
    rw [HeadView.modeIds, List.getElem?_map, hj, map_some, hid]
  have hlt : i < hv.modeIds.length := (List.getElem?_eq_some_iff.mp hi').1
  exact (List.getElem?_inj hlt hnodup).mp (hi'.trans hj'.symm)

section

variable (h : hv.DiffModes old conf hv₂)
include h

/-- Only the modes change. -/
theorem HeadView.DiffModes.eq : hv₂ = { hv with modes := hv₂.modes } := by
  unfold HeadView.DiffModes at h
  by_cases hmodes : old.modes = conf.modes
  · rw [if_neg (not_not.mpr hmodes)] at h
    rw [h]
  · rw [if_pos hmodes] at h
    obtain ⟨fresh, -, rfl⟩ := h
    rfl

/-- The modes that stay keep their handles. -/
theorem HeadView.DiffModes.id_eq {i : ℕ} {m : ModeView} (hi : hv.modes[i]? = some m)
    (hlt : i < conf.modes.length) : ∃ m', hv₂.modes[i]? = some m' ∧ m'.id = m.id := by
  unfold HeadView.DiffModes at h
  by_cases hmodes : old.modes = conf.modes
  · rw [if_neg (not_not.mpr hmodes)] at h
    exact ⟨m, by rw [h, hi], rfl⟩
  · rw [if_pos hmodes] at h
    obtain ⟨fresh, -, rfl⟩ := h
    have hleft : i < hv.modes.length := (List.getElem?_eq_some_iff.mp hi).1
    refine ⟨m.sent conf.modes[i], ?_, ModeView.sent_id ..⟩
    rw [List.getElem?_zipWith, List.getElem?_append_left hleft, hi, List.getElem?_eq_getElem hlt]

/-- There are as many modes as the output has. -/
theorem HeadView.DiffModes.tracks (htracks : hv.Tracks old) : hv₂.Tracks conf := by
  unfold HeadView.DiffModes at h
  by_cases hmodes : old.modes = conf.modes
  · rw [if_neg (not_not.mpr hmodes)] at h
    rw [h]
    exact ⟨by rw [htracks.length, hmodes], htracks.fits⟩
  · rw [if_pos hmodes] at h
    obtain ⟨fresh, hlength, rfl⟩ := h
    refine ⟨?_, sentModes_sent.fits ?_⟩
    · rw [length_zipWith, length_append, length_map]
      omega
    · intro m hm refresh hrefresh
      rcases mem_append.mp hm with hm | hm
      · exact htracks.fits m hm refresh hrefresh
      · obtain ⟨id, -, rfl⟩ := mem_map.mp hm
        cases hrefresh

/-- The modes agree with the output exactly when every refresh rate can be told. -/
theorem HeadView.DiffModes.agree_iff (htracks : hv.Tracks old) (hagrees : hv.AgreesModes old) :
    hv₂.AgreesModes conf ↔ Fits conf := by
  unfold HeadView.DiffModes at h
  by_cases hmodes : old.modes = conf.modes
  · rw [if_neg (not_not.mpr hmodes)] at h
    have hagrees : hv.AgreesModes conf := by
      unfold HeadView.AgreesModes
      rw [← hmodes]
      exact hagrees
    rw [h]
    -- The refresh rates are known already.
    exact iff_of_true hagrees
      (fits_of_agreesModes ⟨by rw [htracks.length, hmodes], htracks.fits⟩ hagrees)
  · rw [if_pos hmodes] at h
    obtain ⟨fresh, hlength, rfl⟩ := h
    refine sentModes_sent.agree_iff ?_ ?_
    · intro m hm refresh hrefresh
      rcases mem_append.mp hm with hm | hm
      · exact htracks.fits m hm refresh hrefresh
      · obtain ⟨id, -, rfl⟩ := mem_map.mp hm
        cases hrefresh
    · rw [length_append, length_map]
      exact hlength

omit h in
/-- `current_mode` with a mode that the head has. -/
theorem withCurrentMode_of_lt {i : ℕ} (hlt : i < hv.modes.length) :
    hv.withCurrentMode i = { hv with currentMode := some hv.modes[i].id } := by
  have hget : hv.modeIds[i]? = some hv.modes[i].id := by
    rw [HeadView.modeIds, List.getElem?_map, List.getElem?_eq_getElem hlt, map_some]
  unfold HeadView.withCurrentMode
  rw [hget]
  rfl

/-- The mode that was the current one is at the index of a mode of the output only if it was
there before. -/
theorem HeadView.DiffModes.currentMode_kept_iff (hagrees : hv.AgreesCurrent old)
    (hnodup : hv.modeIds.Nodup) (hnodup₂ : hv₂.modeIds.Nodup)
    (hcurrent : hv₂.currentMode = hv.currentMode) {oldIndex newIndex : ℕ}
    (hold : old.currentMode = some oldIndex) (hlt : newIndex < conf.modes.length) :
    (∃ m, hv₂.modes[newIndex]? = some m ∧ hv₂.currentMode = some m.id) ↔
      oldIndex = newIndex := by
  obtain ⟨m, hm, hid⟩ := hagrees.2 oldIndex hold
  constructor
  · rintro ⟨m', hm', hid'⟩
    have heq : m.id = m'.id := by
      rw [hcurrent, hid] at hid'
      exact some.inj hid'
    by_cases hstays : oldIndex < conf.modes.length
    · obtain ⟨m₂, hm₂, hid₂⟩ := h.id_eq hm hstays
      exact index_eq_of_id_eq hnodup₂ hm₂ hm' (hid₂.trans heq)
    · have hleft : oldIndex < hv.modes.length := (List.getElem?_eq_some_iff.mp hm).1
      have hnew : newIndex < hv.modes.length := by omega
      obtain ⟨m₂, hm₂, hid₂⟩ := h.id_eq (List.getElem?_eq_getElem hnew) hlt
      rw [hm'] at hm₂
      obtain rfl := some.inj hm₂
      exact index_eq_of_id_eq hnodup hm (List.getElem?_eq_getElem hnew) (heq.trans hid₂)
  · rintro rfl
    obtain ⟨m₂, hm₂, hid₂⟩ := h.id_eq hm hlt
    exact ⟨m₂, hm₂, by rw [hcurrent, hid, hid₂]⟩

/-- The current mode agrees with the output exactly when there are as many modes as before, or it
keeps its index, or there is none. -/
theorem HeadView.DiffModes.agreesCurrent_iff (htracks : hv.Tracks old)
    (hagrees : hv.AgreesCurrent old) (hnodup : hv.modeIds.Nodup) (hnodup₂ : hv₂.modeIds.Nodup)
    (henabled : hv₂.enabled = hv.enabled) (hcurrent : hv₂.currentMode = hv.currentMode) :
    (hv₂.diffCurrentMode old conf).AgreesCurrent conf ↔
      (old.modes.length = conf.modes.length ∨
        ∀ i, conf.currentMode = some i → old.currentMode = some i) := by
  have htracks₂ := h.tracks htracks
  have henabled : hv₂.enabled = some old.currentMode.isSome := henabled.trans hagrees.1
  have hlt : ∀ i, conf.currentMode = some i → i < hv₂.modes.length := by
    intro i hi
    rw [htracks₂.length]
    exact conf.currentMode_lt i hi
  unfold HeadView.diffCurrentMode HeadView.AgreesCurrent
  cases hold : old.currentMode with
  | none =>
    rw [hold] at henabled
    cases hconf : conf.currentMode with
    | none => exact iff_of_true ⟨henabled, nofun⟩ (.inr nofun)
    | some newIndex =>
      by_cases hlength : old.modes.length = conf.modes.length
      · have hlt' : newIndex < (hv₂.receiveAll [.enabled true]).modes.length := hlt newIndex hconf
        simp only [if_pos hlength]
        rw [withCurrentMode_of_lt hlt']
        refine iff_of_true ⟨rfl, fun i hi => ?_⟩ (.inl hlength)
        obtain rfl := some.inj hi
        exact ⟨_, List.getElem?_eq_getElem hlt', rfl⟩
      · simp only [if_neg hlength]
        refine iff_of_false (fun hagree => ?_) ?_
        · rw [henabled] at hagree
          cases hagree.1
        · rintro (heq | hkeep)
          · exact hlength heq
          · cases hkeep newIndex rfl
  | some oldIndex =>
    rw [hold] at henabled
    cases hconf : conf.currentMode with
    | none => exact iff_of_true ⟨rfl, nofun⟩ (.inr nofun)
    | some newIndex =>
      by_cases hsent : old.modes.length = conf.modes.length ∧
          (old.modes ≠ conf.modes ∨ oldIndex ≠ newIndex)
      · simp only [if_pos hsent]
        rw [withCurrentMode_of_lt (hlt newIndex hconf)]
        refine iff_of_true ⟨henabled, fun i hi => ?_⟩ (.inl hsent.1)
        obtain rfl := some.inj hi
        exact ⟨_, List.getElem?_eq_getElem (hlt newIndex hconf), rfl⟩
      · simp only [if_neg hsent]
        -- Nothing is sent, so the mode that was the current one stays it.
        have hkept := h.currentMode_kept_iff hagrees hnodup hnodup₂ hcurrent hold
          (conf.currentMode_lt newIndex hconf)
        constructor
        · intro hagree
          refine .inr fun i hi => ?_
          rw [hkept.mp (hagree.2 newIndex rfl), hi]
        · intro hkeep
          have heq : oldIndex = newIndex := by
            rcases hkeep with hlength | hkeep
            · by_contra hne
              exact hsent ⟨hlength, .inr hne⟩
            · exact some.inj (hkeep newIndex rfl)
          refine ⟨henabled, fun i hi => ?_⟩
          obtain rfl := some.inj hi
          exact hkept.mpr heq

end

theorem receiveAll_logicalChangeEvents (oldLogical newLogical : NiriIpc.LogicalOutput)
    (hv : HeadView) :
    hv.receiveAll (ClientData.logicalChangeEvents oldLogical newLogical) = { hv with
      position := if oldLogical.x ≠ newLogical.x ∨ oldLogical.y ≠ newLogical.y then
        some (newLogical.x, newLogical.y) else hv.position
      scale := if oldLogical.scale ≠ newLogical.scale then some newLogical.scale else hv.scale
      transform := if oldLogical.transform ≠ newLogical.transform then some newLogical.transform
        else hv.transform } := by
  unfold ClientData.logicalChangeEvents
  split_ifs <;> rfl

/-- The logical output agrees after it was told of. -/
theorem diffLogical_agrees (hold : hv.AgreesLogical old) :
    (hv.diffLogical old conf).AgreesLogical conf := by
  intro logical hconf
  unfold HeadView.diffLogical
  rw [hconf]
  cases hlogical : old.logical with
  | none => exact ⟨rfl, rfl, rfl⟩
  | some oldLogical =>
    obtain ⟨hposition, htransform, hscale⟩ := hold oldLogical hlogical
    by_cases hsame : oldLogical = logical
    · simp only [if_neg (not_not.mpr hsame)]
      rw [← hsame]
      exact ⟨hposition, htransform, hscale⟩
    · simp only [if_pos hsame]
      rw [receiveAll_logicalChangeEvents]
      refine ⟨?_, ?_, ?_⟩
      · by_cases hmoved : oldLogical.x ≠ logical.x ∨ oldLogical.y ≠ logical.y
        · exact if_pos hmoved
        · obtain ⟨hx, hy⟩ := not_or.mp hmoved
          rw [if_neg hmoved, hposition, not_not.mp hx, not_not.mp hy]
      · by_cases hturned : oldLogical.transform = logical.transform
        · rw [if_neg (not_not.mpr hturned), htransform, hturned]
        · exact if_pos hturned
      · by_cases hscaled : oldLogical.scale = logical.scale
        · rw [if_neg (not_not.mpr hscaled), hscale, hscaled]
        · exact if_pos hscaled

/-- Adaptive sync agrees after it was told of. -/
theorem diffVrr_agrees (hold : hv.AgreesAdaptiveSync version old) :
    (hv.diffVrr version old conf).AgreesAdaptiveSync version conf := by
  intro hversion
  unfold HeadView.diffVrr
  by_cases hsame : old.vrrEnabled = conf.vrrEnabled
  · rw [if_neg (not_not.mpr hsame), hold hversion, hsame]
  · rw [if_pos hsame]
    exact adaptiveSync_adaptiveSyncEvents hversion

/-- A head as it changes with its output. -/
def HeadView.Diff (version : ℕ) (old conf : NiriIpc.Output) (hv hv' : HeadView) : Prop :=
  ∃ hv₂, (hv.diffVrr version old conf).DiffModes old conf hv₂ ∧
    hv' = (hv₂.diffCurrentMode old conf).diffLogical old conf

/-- A head still tracks its output after a change. -/
theorem HeadView.Diff.tracks (h : hv.Diff version old conf hv') (htracks : hv.Tracks old) :
    hv'.Tracks conf := by
  obtain ⟨hv₂, hmodes, rfl⟩ := h
  have htracks₁ : (hv.diffVrr version old conf).Tracks old := by
    rw [diffVrr_eq]
    exact ⟨htracks.length, htracks.fits⟩
  have htracks₂ := hmodes.tracks htracks₁
  rw [diffLogical_eq, diffCurrentMode_eq]
  exact ⟨htracks₂.length, htracks₂.fits⟩

/-- A head that agreed with its output does so after a change exactly when the events convey it. -/
theorem HeadView.Diff.agrees_iff (h : hv.Diff version old conf hv') (htracks : hv.Tracks old)
    (hagrees : hv.Agrees version old) (hnodup : hv.modeIds.Nodup) (hnodup' : hv'.modeIds.Nodup) :
    hv'.Agrees version conf ↔ Conveys old conf := by
  obtain ⟨hv₂, hmodes, rfl⟩ := h
  obtain ⟨hv₁, hv₁eq⟩ : ∃ hv₁, hv₁ = hv.diffVrr version old conf := ⟨_, rfl⟩
  have hadaptive : (hv.diffVrr version old conf).AgreesAdaptiveSync version conf :=
    diffVrr_agrees hagrees.adaptiveSync
  rw [← hv₁eq] at hmodes hadaptive
  rw [diffVrr_eq] at hv₁eq
  have htracks₁ : hv₁.Tracks old := by
    rw [hv₁eq]
    exact ⟨htracks.length, htracks.fits⟩
  have hmodes₁ : hv₁.AgreesModes old := by
    rw [hv₁eq]
    exact hagrees.modes
  have hcurrent₁ : hv₁.AgreesCurrent old := by
    rw [hv₁eq]
    exact hagrees.currentMode
  have hlogical₁ : hv₁.AgreesLogical old := by
    rw [hv₁eq]
    exact hagrees.logical
  have hnodup₁ : hv₁.modeIds.Nodup := by
    rw [hv₁eq]
    exact hnodup
  have heq₂ := hmodes.eq
  obtain ⟨hv₃, hv₃eq⟩ : ∃ hv₃, hv₃ = hv₂.diffCurrentMode old conf := ⟨_, rfl⟩
  have heq₃ := diffCurrentMode_eq old conf hv₂
  have heq₄ := diffLogical_eq old conf hv₃
  rw [← hv₃eq] at heq₃ hnodup' ⊢
  have hmodes₄ : (hv₃.diffLogical old conf).modes = hv₂.modes := by
    rw [heq₄, heq₃]
  have hnodup₂ : hv₂.modeIds.Nodup := by
    unfold HeadView.modeIds at hnodup' ⊢
    rw [hmodes₄] at hnodup'
    exact hnodup'
  have hcurrent := hmodes.agreesCurrent_iff htracks₁ hcurrent₁ hnodup₁ hnodup₂
    (by rw [heq₂]) (by rw [heq₂])
  rw [← hv₃eq] at hcurrent
  have hcurrent₄ : (hv₃.diffLogical old conf).AgreesCurrent conf ↔ hv₃.AgreesCurrent conf := by
    rw [heq₄]
    exact Iff.rfl
  have hmodes₄ : (hv₃.diffLogical old conf).AgreesModes conf ↔ hv₂.AgreesModes conf := by
    unfold HeadView.AgreesModes
    rw [hmodes₄]
  have hlogical₃ : hv₃.AgreesLogical old := by
    rw [heq₃, heq₂]
    exact hlogical₁
  have hadaptive₄ : (hv₃.diffLogical old conf).AgreesAdaptiveSync version conf := by
    rw [heq₄, heq₃, heq₂]
    exact hadaptive
  constructor
  · intro h
    exact ⟨(hmodes.agree_iff htracks₁ hmodes₁).mp (hmodes₄.mp h.modes),
      hcurrent.mp (hcurrent₄.mp h.currentMode)⟩
  · rintro ⟨hfits, hkeep⟩
    exact ⟨hmodes₄.mpr ((hmodes.agree_iff htracks₁ hmodes₁).mpr hfits),
      hcurrent₄.mpr (hcurrent.mpr hkeep), diffLogical_agrees hlogical₃, hadaptive₄⟩

end Changed

end Tiri.Protocols.OutputManagement
