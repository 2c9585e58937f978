import Tiri.Lib.Run
import Tiri.Protocols.OutputManagement

/-!
# What a client is told of the heads

Results:
* `Sync.patchModes`: a client that has the modes of a head is left with the new ones;
* `Sync.sendNewHead`, `Sync.removeHead`: it is told of an output that comes, or goes.
-/

namespace Tiri.Protocols.OutputManagement

open Run Option List Finmap Function Nat

variable {OutputId ClientId : Type} [DecidableEq OutputId] [DecidableEq ClientId]

/-! ## What the events tell -/

/-- A mode as a client is told of it, where the refresh rate can be told. -/
def ModeView.sent (m : ModeView) (mode : NiriIpc.Mode) : ModeView :=
  let m := m.receive (.size mode.width mode.height)
  if mode.refreshRate ≤ i32Max then m.receive (.refresh mode.refreshRate) else m

@[simp] theorem ModeView.sent_id (m : ModeView) (mode : NiriIpc.Mode) :
    (m.sent mode).id = m.id := by
  unfold sent
  by_cases hfits : mode.refreshRate ≤ i32Max
  · rw [if_pos hfits, receive_id, receive_id]
  · rw [if_neg hfits, receive_id]

section Told

variable {data data' data'' : ClientData OutputId} {told told' told'' : OutputId → Option HeadView}
variable {o : OutputId} {hv : HeadView} {head : Head} {pre ms : List ModeView}

/-- The client sees the heads that it is told of. -/
abbrev ClientData.Shown (data : ClientData OutputId) (told : OutputId → Option HeadView) : Prop :=
  Shows data.manager.nextId told data.manager.pending

/-- The client is told of a change of the heads, that is not yet in the heads that are kept. -/
structure Tells (data data' : ClientData OutputId) (told' : OutputId → Option HeadView) : Prop where
  shown : data'.Shown told'
  heads : data'.heads = data.heads
  version : data'.manager.version = data.manager.version

omit [DecidableEq OutputId] in
theorem Tells.refl (h : data.Shown told) : Tells data data told := ⟨h, rfl, rfl⟩

omit [DecidableEq OutputId] in
theorem Tells.trans (h : Tells data data' told') (h' : Tells data' data'' told'') :
    Tells data data'' told'' :=
  ⟨h'.shown, h'.heads.trans h.heads, h'.version.trans h.version⟩

/-- The event is neither about a mode that comes, nor about the head that goes. -/
def HeadEvent.isPlain : HeadEvent → Bool
  | .mode _ => false
  | .finished => false
  | _ => true

theorem Tells.sendHead (h : data.Shown told) (ho : told o = some hv) (hid : head.id = hv.id)
    {event : HeadEvent} (hplain : event.isPlain = true) :
    Tells data (data.sendHead head event)
      (update told o (some (hv.receive event))) := by
  refine ⟨?_, rfl, rfl⟩
  have hfinished : event ≠ .finished := by
    rintro rfl
    cases hplain
  have hmode : ∀ mode, event ≠ .mode mode := by
    rintro mode rfl
    cases hplain
  have hshown := Shows.head h ho hfinished hmode
  rw [← hid] at hshown
  exact hshown

/-- A head gets events. -/
def HeadView.receiveAll (hv : HeadView) (events : List HeadEvent) : HeadView :=
  events.foldl HeadView.receive hv

theorem Tells.sendHeads (h : data.Shown told) (ho : told o = some hv) (hid : head.id = hv.id)
    {events : List HeadEvent} (hplain : ∀ event ∈ events, event.isPlain = true) :
    Tells data (data.sendHeads head events)
      (update told o (some (hv.receiveAll events))) := by
  induction events generalizing data told hv with
  | nil =>
    have hsame : update told o (some (hv.receiveAll [])) = told := by
      show update told o (some hv) = told
      rw [← ho, update_eq_self]
    rw [hsame]
    exact Tells.refl h
  | cons event events ih =>
    have hfirst := Tells.sendHead h ho hid (hplain event (mem_cons_self ..))
    have hrest := ih hfirst.shown (update_self ..) (hid.trans (hv.receive_id event).symm)
      fun event' hmem => hplain event' (mem_cons_of_mem _ hmem)
    rw [update_idem] at hrest
    exact hfirst.trans hrest

theorem Tells.sendMode (h : data.Shown told) (ho : told o = some hv) {mode : ℕ}
    (hmode : mode ∈ hv.modeIds) (event : ModeEvent) :
    Tells data (data.sendMode mode event)
      (update told o (some (hv.receiveMode mode event))) :=
  ⟨Shows.mode h ho hmode event, rfl, rfl⟩

variable {m : ModeView}

/-- An event of one mode among the modes of a head with different handles. -/
theorem map_modes_append_cons (hnodup : ((pre ++ m :: ms).map ModeView.id).Nodup)
    (f : ModeView → ModeView) :
    ((pre ++ m :: ms).map fun m' => if m'.id = m.id then f m' else m') = pre ++ f m :: ms := by
  rw [map_append, map_cons, nodup_append, nodup_cons] at hnodup
  obtain ⟨-, ⟨hms, -⟩, hpre⟩ := hnodup
  have hpreNe : ∀ m' ∈ pre, ¬ m'.id = m.id := fun m' hm' =>
    hpre m'.id (mem_map_of_mem hm') m.id (mem_cons_self ..)
  have hmsNe : ∀ m' ∈ ms, ¬ m'.id = m.id := fun m' hm' heq =>
    hms (heq ▸ mem_map_of_mem hm')
  rw [map_append, map_cons, if_pos rfl, map_congr_left fun m' hm' => if_neg (hpreNe m' hm'),
    map_congr_left fun m' hm' => if_neg (hmsNe m' hm'), List.map_id', List.map_id']

theorem HeadView.receiveMode_append_cons (hmodes : hv.modes = pre ++ m :: ms)
    (hnodup : hv.modeIds.Nodup) {event : ModeEvent} (hfinished : event ≠ .finished) :
    hv.receiveMode m.id event = { hv with modes := pre ++ m.receive event :: ms } := by
  have hmap : hv.receiveMode m.id event = { hv with
      modes := hv.modes.map fun m' => if m'.id = m.id then m'.receive event else m' } := by
    cases event with
    | finished => exact absurd rfl hfinished
    | _ => rfl
  unfold modeIds at hnodup
  rw [hmodes] at hmap hnodup
  rw [hmap, map_modes_append_cons hnodup fun m' => m'.receive event]

section

variable (h : data.Shown told) (ho : told o = some hv)
include h ho

section

variable (hmodes : hv.modes = pre ++ m :: ms)
include hmodes

variable {mode : ℕ}

/-- An event of one of the modes. -/
theorem Tells.sendModeAt (hid : m.id = mode) (event : ModeEvent) (hfinished : event ≠ .finished) :
    Tells data (data.sendMode mode event)
      (update told o (some { hv with modes := pre ++ m.receive event :: ms })) := by
  have hmem : mode ∈ hv.modeIds := by
    rw [HeadView.mem_modeIds]
    exact ⟨m, by rw [hmodes]; exact mem_append_right _ (mem_cons_self ..), hid⟩
  have htells := Tells.sendMode h ho hmem event
  rw [← hid, HeadView.receiveMode_append_cons hmodes (h.nodup o hv ho) hfinished, hid] at htells
  exact htells

/-- An event of one of the modes, that is sent under a condition. -/
theorem Tells.sendModeIf (hid : m.id = mode) (event : ModeEvent) (hfinished : event ≠ .finished)
    (c : Prop) [Decidable c] :
    Tells data (if c then data.sendMode mode event else data)
      (update told o
        (some { hv with modes := pre ++ (if c then m.receive event else m) :: ms })) := by
  by_cases hc : c
  · rw [if_pos hc, if_pos hc]
    exact Tells.sendModeAt h ho hmodes hid event hfinished
  · rw [if_neg hc, if_neg hc, ← hmodes]
    show Tells data data (update told o (some hv))
    rw [← ho, update_eq_self]
    exact Tells.refl h

/-- `wl_mode.size` and `wl_mode.refresh`. -/
theorem Tells.sendSize (mode : NiriIpc.Mode) :
    Tells data (data.sendSize m.id mode)
      (update told o (some { hv with modes := pre ++ m.sent mode :: ms })) := by
  have hsize := Tells.sendModeAt h ho hmodes rfl (.size mode.width mode.height) nofun
  have hrefresh := Tells.sendModeIf hsize.shown (update_self ..) rfl rfl
    (.refresh mode.refreshRate) nofun (mode.refreshRate ≤ i32Max)
  rw [update_idem] at hrefresh
  exact hsize.trans hrefresh

end

/-- The modes that are there change. -/
theorem Tells.foldl_sendSize (hmodes : hv.modes = pre ++ ms) (confs : List NiriIpc.Mode) :
    Tells data
      (((ms.map ModeView.id).zip confs).foldl (fun data entry => data.sendSize entry.1 entry.2) data)
      (update told o (some { hv with
        modes := pre ++ (ms.zipWith ModeView.sent confs ++ ms.drop confs.length) })) := by
  induction ms generalizing data told hv pre confs with
  | nil =>
    have hsame : ({ hv with modes := pre ++ ([] ++ []) } : HeadView) = hv := by
      rw [nil_append, ← hmodes]
    show Tells data data (update told o (some { hv with modes := pre ++ ([] ++ [].drop _) }))
    rw [drop_nil, hsame, ← ho, update_eq_self]
    exact Tells.refl h
  | cons m ms ih =>
    cases confs with
    | nil =>
      have hsame : ({ hv with modes := pre ++ ([] ++ m :: ms) } : HeadView) = hv := by
        rw [nil_append, ← hmodes]
      show Tells data data (update told o (some { hv with modes := pre ++ ([] ++ m :: ms) }))
      rw [hsame, ← ho, update_eq_self]
      exact Tells.refl h
    | cons mode confs =>
      have hfirst := Tells.sendSize h ho hmodes mode
      have hrest := ih hfirst.shown (update_self ..)
        (append_cons pre (m.sent mode) ms) confs
      rw [update_idem, ← append_cons] at hrest
      exact hfirst.trans hrest

/-- A mode comes under a fresh handle. -/
theorem Tells.createMode (hid : head.id = hv.id) :
    Tells data (data.createResource.2.sendHead head (.mode data.createResource.1))
      (update told o
        (some { hv with modes := hv.modes ++ [ModeView.new data.manager.nextId] })) := by
  refine ⟨?_, rfl, rfl⟩
  have hshown := Shows.headMode h ho
  rw [← hid] at hshown
  exact hshown

theorem Tells.addMode (hid : head.id = hv.id) (modes : List ℕ) (mode : NiriIpc.Mode) :
    Tells data (ClientData.addMode head (data, modes) mode).1
      (update told o (some { hv with
        modes := hv.modes ++ [(ModeView.new data.manager.nextId).sent mode] })) := by
  have hcreate := Tells.createMode h ho hid
  have hsize := Tells.sendSize hcreate.shown (update_self ..)
    (rfl : hv.modes ++ [ModeView.new data.manager.nextId] = hv.modes ++ _ :: []) mode
  rw [update_idem] at hsize
  exact hcreate.trans hsize

/-- Modes are added under fresh handles. -/
theorem Tells.foldl_addMode (hid : head.id = hv.id) (confs : List NiriIpc.Mode) (modes : List ℕ) :
    ∃ fresh : List ℕ, fresh.length = confs.length ∧
      (confs.foldl (ClientData.addMode head) (data, modes)).2 = modes ++ fresh ∧
      Tells data (confs.foldl (ClientData.addMode head) (data, modes)).1
        (update told o (some { hv with
          modes := hv.modes ++ (fresh.map ModeView.new).zipWith ModeView.sent confs })) := by
  induction confs generalizing data told hv modes with
  | nil =>
    have hsame : ({ hv with modes := hv.modes ++ [] } : HeadView) = hv := by
      rw [append_nil]
    refine ⟨[], rfl, (append_nil _).symm, ?_⟩
    show Tells data data (update told o (some { hv with modes := hv.modes ++ [] }))
    rw [hsame, ← ho, update_eq_self]
    exact Tells.refl h
  | cons mode confs ih =>
    have hfirst := Tells.addMode h ho hid modes mode
    obtain ⟨fresh, hlength, hmodes, hrest⟩ := ih hfirst.shown (update_self ..) hid
      (modes ++ [data.manager.nextId])
    refine ⟨data.manager.nextId :: fresh, congrArg (· + 1) hlength, ?_, ?_⟩
    · rw [append_cons]
      exact hmodes
    · rw [update_idem] at hrest
      simp only [map_cons, zipWith_cons_cons]
      rw [append_cons]
      exact hfirst.trans hrest

/-- The last modes of a head are finished. -/
theorem Tells.foldl_finished (hmodes : hv.modes = pre ++ ms) :
    Tells data ((ms.map ModeView.id).foldl (fun data m => data.sendMode m .finished) data)
      (update told o (some { hv with modes := pre })) := by
  induction ms generalizing data told hv with
  | nil =>
    rw [append_nil] at hmodes
    rw [← hmodes]
    show Tells data data (update told o (some hv))
    rw [← ho, update_eq_self]
    exact Tells.refl h
  | cons m ms ih =>
    have hnodup : ((pre ++ m :: ms).map ModeView.id).Nodup := by
      rw [← hmodes]
      exact h.nodup o hv ho
    have hmem : m.id ∈ hv.modeIds := by
      rw [HeadView.mem_modeIds]
      exact ⟨m, by rw [hmodes]; exact mem_append_right _ (mem_cons_self ..), rfl⟩
    have hfilter : hv.receiveMode m.id .finished = { hv with modes := pre ++ ms } := by
      rw [map_append, map_cons, nodup_append, nodup_cons] at hnodup
      obtain ⟨-, ⟨hms, -⟩, hpre⟩ := hnodup
      show ({ hv with modes := hv.modes.filter fun m' => m'.id ≠ m.id } : HeadView) = _
      rw [hmodes, filter_append, filter_cons_of_neg (by simp),
        filter_eq_self.mpr, filter_eq_self.mpr]
      · intro m' hm'
        exact decide_eq_true fun heq => hms (heq ▸ mem_map_of_mem hm')
      · intro m' hm'
        exact decide_eq_true (hpre m'.id (mem_map_of_mem hm') m.id (mem_cons_self ..))
    have hfirst := Tells.sendMode h ho hmem .finished
    rw [hfilter] at hfirst
    have hrest := ih hfirst.shown (update_self ..) rfl
    rw [update_idem] at hrest
    exact hfirst.trans hrest

end

/-- A new mode of a new head. -/
def ModeView.introduced (m : ModeView) (mode : NiriIpc.Mode) : ModeView :=
  let m := m.receive (.size mode.width mode.height)
  let m := if mode.isPreferred = true then m.receive .preferred else m
  if mode.refreshRate ≤ i32Max then m.receive (.refresh mode.refreshRate) else m

theorem ModeView.introduced_id (m : ModeView) (mode : NiriIpc.Mode) :
    (m.introduced mode).id = m.id := by
  unfold introduced
  by_cases hpreferred : mode.isPreferred = true <;>
    by_cases hfits : mode.refreshRate ≤ i32Max <;> simp [hpreferred, hfits]

/-- A new head gets a mode, which may be the current one. -/
theorem Tells.sendNewMode (h : data.Shown told) (ho : told o = some hv) (hid : head.id = hv.id)
    (conf : NiriIpc.Output) (modes : List ℕ) (mode : NiriIpc.Mode) (index : ℕ) :
    Tells data (ClientData.sendNewMode conf head (data, modes) (mode, index)).1
      (update told o (some { hv with
        modes := hv.modes ++ [(ModeView.new data.manager.nextId).introduced mode]
        currentMode := if some index = conf.currentMode then some data.manager.nextId
          else hv.currentMode })) := by
  have hcreate := Tells.createMode h ho hid
  have hsize := Tells.sendModeAt hcreate.shown (update_self ..)
    (rfl : hv.modes ++ [ModeView.new data.manager.nextId] = hv.modes ++ _ :: []) rfl
    (.size mode.width mode.height) nofun
  rw [update_idem] at hsize
  have hpreferred := Tells.sendModeIf hsize.shown (update_self ..) rfl rfl
    .preferred nofun (mode.isPreferred = true)
  rw [update_idem] at hpreferred
  have hids : (if mode.isPreferred = true then
      ((ModeView.new data.manager.nextId).receive (.size mode.width mode.height)).receive .preferred
      else (ModeView.new data.manager.nextId).receive (.size mode.width mode.height)).id =
      data.manager.nextId := by
    by_cases hc : mode.isPreferred = true
    · rw [if_pos hc]
      rfl
    · rw [if_neg hc]
      rfl
  have hrefresh := Tells.sendModeIf hpreferred.shown (update_self ..) rfl hids
    (.refresh mode.refreshRate) nofun (mode.refreshRate ≤ i32Max)
  rw [update_idem] at hrefresh
  have hmode := ((hcreate.trans hsize).trans hpreferred).trans hrefresh
  by_cases hcurrent : some index = conf.currentMode
  · have hplain : (HeadEvent.currentMode data.manager.nextId).isPlain = true := rfl
    have hhead := Tells.sendHead hmode.shown (update_self ..) hid hplain
    rw [update_idem] at hhead
    unfold ClientData.sendNewMode
    simp only [if_pos hcurrent]
    exact hmode.trans hhead
  · unfold ClientData.sendNewMode
    simp only [if_neg hcurrent]
    exact hmode

/-- The modes of a new head, of which at most one is the current one. -/
theorem Tells.foldl_sendNewMode (h : data.Shown told) (ho : told o = some hv)
    (hid : head.id = hv.id) (conf : NiriIpc.Output) (confs : List NiriIpc.Mode) (modes : List ℕ)
    (k : ℕ) :
    ∃ (fresh : List ℕ) (current : Option ℕ), fresh.length = confs.length ∧
      (∀ i, conf.currentMode = some i → current =
        if i < k then hv.currentMode else (fresh[i - k]?).or hv.currentMode) ∧
      ((confs.zipIdx k).foldl (ClientData.sendNewMode conf head) (data, modes)).2 = modes ++ fresh ∧
      Tells data ((confs.zipIdx k).foldl (ClientData.sendNewMode conf head) (data, modes)).1
        (update told o (some { hv with
          modes := hv.modes ++ (fresh.map ModeView.new).zipWith ModeView.introduced confs
          currentMode := current })) := by
  induction confs generalizing data told hv modes k with
  | nil =>
    have hsame : ({ hv with modes := hv.modes ++ [] } : HeadView) = hv := by
      rw [append_nil]
    refine ⟨[], hv.currentMode, rfl, fun i _ => ?_, (append_nil _).symm, ?_⟩
    · by_cases hi : i < k
      · rw [if_pos hi]
      · rw [if_neg hi]
        rfl
    · show Tells data data (update told o (some { hv with modes := hv.modes ++ [] }))
      rw [hsame, ← ho, update_eq_self]
      exact Tells.refl h
  | cons mode confs ih =>
    have hfirst := Tells.sendNewMode h ho hid conf modes mode k
    obtain ⟨fresh, current, hlength, hcurrent, hmodes, hrest⟩ := ih hfirst.shown
      (update_self ..) hid (modes ++ [data.manager.nextId]) (k + 1)
    refine ⟨data.manager.nextId :: fresh, current, congrArg (· + 1) hlength, ?_, ?_, ?_⟩
    · intro i hi
      rw [hcurrent i hi, hi]
      rcases lt_trichotomy i k with hlt | rfl | hgt
      · have hne : some k ≠ some i := fun heq => hlt.ne' (some.inj heq)
        rw [if_pos hlt, if_pos (Nat.lt_succ_of_lt hlt), if_neg hne]
      · rw [if_neg (lt_irrefl i), if_pos (Nat.lt_succ_self i), if_pos rfl, Nat.sub_self]
        rfl
      · have hne : some k ≠ some i := fun heq => hgt.ne (some.inj heq)
        have hsub : i - k = (i - (k + 1)) + 1 := by omega
        have hnext : ¬ i < k + 1 := by omega
        rw [if_neg hnext, if_neg hne, if_neg hgt.not_gt, hsub, List.getElem?_cons_succ]
    · rw [append_cons]
      exact hmodes
    · rw [update_idem] at hrest
      simp only [map_cons, zipWith_cons_cons]
      rw [append_cons]
      exact hfirst.trans hrest

end Told

/-! ## The events of the source -/

theorem isPlain_introductionEvents (conf : NiriIpc.Output) :
    ∀ event ∈ ClientData.introductionEvents conf, event.isPlain = true := by
  unfold ClientData.introductionEvents
  rw [← List.all_eq_true]
  cases conf.physicalSize with
  | none => rfl
  | some size =>
    by_cases hfits : size.1 ≤ i32Max ∧ size.2 ≤ i32Max
    · simp only [if_pos hfits]
      rfl
    · simp only [if_neg hfits]
      rfl

theorem currentMode_introductionEvents (conf : NiriIpc.Output) (id : ℕ) :
    ((HeadView.new id).receiveAll (ClientData.introductionEvents conf)).currentMode = none := by
  unfold ClientData.introductionEvents
  cases conf.physicalSize with
  | none => rfl
  | some size =>
    by_cases hfits : size.1 ≤ i32Max ∧ size.2 ≤ i32Max
    · simp only [if_pos hfits]
      rfl
    · simp only [if_neg hfits]
      rfl

theorem isPlain_logicalEvents (logical : NiriIpc.LogicalOutput) :
    ∀ event ∈ ClientData.logicalEvents logical, event.isPlain = true :=
  List.all_eq_true.mp rfl

variable (version : ℕ)

theorem isPlain_adaptiveSyncEvents (conf : NiriIpc.Output) :
    ∀ event ∈ ClientData.adaptiveSyncEvents version conf, event.isPlain = true := by
  unfold ClientData.adaptiveSyncEvents
  rw [← List.all_eq_true]
  by_cases hversion : evtAdaptiveSyncSince ≤ version
  · rw [if_pos hversion]
    rfl
  · rw [if_neg hversion]
    rfl

theorem isPlain_logicalChangeEvents (oldLogical newLogical : NiriIpc.LogicalOutput) :
    ∀ event ∈ ClientData.logicalChangeEvents oldLogical newLogical, event.isPlain = true := by
  unfold ClientData.logicalChangeEvents
  rw [← List.all_eq_true, all_append, all_append]
  split_ifs <;> rfl

theorem isPlain_identityEvents (conf : NiriIpc.Output) :
    ∀ event ∈ ClientData.identityEvents version conf, event.isPlain = true := by
  unfold ClientData.identityEvents
  rw [← List.all_eq_true, all_append, all_append]
  cases conf.serial <;> split_ifs <;> rfl

theorem isPlain_descriptionEvents (conf : NiriIpc.Output) :
    ∀ event ∈ ClientData.descriptionEvents version conf, event.isPlain = true := by
  have hidentity := List.all_eq_true.mpr (isPlain_identityEvents version conf)
  have hadaptive := List.all_eq_true.mpr (isPlain_adaptiveSyncEvents version conf)
  unfold ClientData.descriptionEvents
  rw [← List.all_eq_true]
  simp only [all_append, Bool.and_eq_true]
  refine ⟨⟨⟨?_, rfl⟩, hidentity⟩, hadaptive⟩
  cases conf.logical <;> rfl

/-! ## The heads that are kept -/

section Sync

variable {version : ℕ} {data data' : ClientData OutputId} {told : OutputId → Option HeadView}
variable {o : OutputId} {hv : HeadView}

/-- The client sees the heads that it is told of, and they are the heads that are kept for it. -/
structure Sync (version : ℕ) (data : ClientData OutputId) (told : OutputId → Option HeadView) :
    Prop where
  shown : data.Shown told
  bound : data.manager.version = version
  heads : ∀ o, data.heads.lookup o = (told o).map fun hv => (⟨hv.id, version⟩, hv.modeIds)

omit [DecidableEq OutputId] in
theorem modeIds_zipWith (ms : List ModeView) (confs : List NiriIpc.Mode)
    (h : ms.length ≤ confs.length) :
    (ms.zipWith ModeView.sent confs).map ModeView.id = ms.map ModeView.id := by
  induction ms generalizing confs with
  | nil => rfl
  | cons m ms ih =>
    cases confs with
    | nil => exact absurd h (not_succ_le_zero _)
    | cons mode confs =>
      rw [zipWith_cons_cons, map_cons, map_cons, ModeView.sent_id, ih confs (le_of_succ_le_succ h)]

section

variable (h : Sync version data told)
include h

theorem Sync.withHead (ho : told o = some hv)
    (f : Head → List ℕ → ClientData OutputId → ClientData OutputId) :
    data.withHead o f = f ⟨hv.id, version⟩ hv.modeIds data := by
  unfold ClientData.withHead
  rw [h.heads, ho]
  rfl

variable {hv' : HeadView}

/-- The heads that are kept change with what is told. -/
theorem Sync.of_tells (htells : Tells data data' (update told o (some hv')))
    (heads : HashMap OutputId (Head × List ℕ))
    (hself : heads.lookup o = some (⟨hv'.id, version⟩, hv'.modeIds))
    (hother : ∀ o', o' ≠ o → heads.lookup o' = data.heads.lookup o') :
    Sync version { data' with heads } (update told o (some hv')) := by
  refine ⟨htells.shown, htells.version.trans h.bound, fun o' => ?_⟩
  show heads.lookup o' = _
  by_cases heq : o' = o
  · subst heq
    rw [update_self, hself, map_some]
  · rw [update_of_ne heq, hother o' heq, h.heads]

/-- What is told of a head that keeps its modes. -/
theorem Sync.of_tells_same (ho : told o = some hv)
    (htells : Tells data data' (update told o (some hv'))) (hid : hv'.id = hv.id)
    (hmodes : hv'.modeIds = hv.modeIds) : Sync version data' (update told o (some hv')) := by
  have hsync := h.of_tells htells data.heads
    (by rw [h.heads, ho, hid, hmodes, map_some]) fun _ _ => rfl
  rw [← htells.heads] at hsync
  exact hsync

variable {events : List HeadEvent}

omit h in
theorem receiveAll_plain (hplain : ∀ event ∈ events, event.isPlain = true) (hv : HeadView) :
    (hv.receiveAll events).id = hv.id ∧ (hv.receiveAll events).modes = hv.modes := by
  induction events generalizing hv with
  | nil => exact ⟨rfl, rfl⟩
  | cons event events ih =>
    obtain ⟨hid, hmodes⟩ :=
      ih (fun event' hmem => hplain event' (mem_cons_of_mem _ hmem)) (hv.receive event)
    have hmode : ∀ mode, event ≠ .mode mode := by
      rintro mode rfl
      cases hplain _ (mem_cons_self ..)
    exact ⟨hid.trans (hv.receive_id event), hmodes.trans (hv.receive_modes hmode)⟩

theorem Sync.sendHeadsOf (ho : told o = some hv) (hplain : ∀ event ∈ events, event.isPlain = true) :
    Sync version (data.sendHeadsOf o events)
      (update told o (some (hv.receiveAll events))) := by
  obtain ⟨hid, hmodes⟩ := receiveAll_plain hplain hv
  unfold ClientData.sendHeadsOf
  rw [h.withHead ho]
  exact h.of_tells_same ho (Tells.sendHeads h.shown ho rfl hplain) hid
    (congrArg (List.map ModeView.id) hmodes)

theorem Sync.sendAdaptiveSync (ho : told o = some hv) (conf : NiriIpc.Output) :
    Sync version (data.sendAdaptiveSync o conf)
      (update told o
        (some (hv.receiveAll (ClientData.adaptiveSyncEvents version conf)))) := by
  have hsync := h.sendHeadsOf ho (isPlain_adaptiveSyncEvents version conf)
  unfold ClientData.sendHeadsOf at hsync
  unfold ClientData.sendAdaptiveSync
  rw [h.withHead ho] at hsync ⊢
  exact hsync

end

/-- The current mode of a head becomes one of its modes. -/
def HeadView.withCurrentMode (hv : HeadView) (newIndex : ℕ) : HeadView :=
  match hv.modeIds[newIndex]? with
  | some newMode => hv.receive (.currentMode newMode)
  | none => hv

theorem Sync.sendCurrentMode (h : Sync version data told) (ho : told o = some hv) (newIndex : ℕ) :
    Sync version (data.sendCurrentMode o newIndex)
      (update told o (some (hv.withCurrentMode newIndex))) := by
  unfold ClientData.sendCurrentMode HeadView.withCurrentMode
  rw [h.withHead ho]
  cases hv.modeIds[newIndex]? with
  | none =>
    show Sync version data (update told o (some hv))
    rw [← ho, update_eq_self]
    exact h
  | some newMode => exact h.of_tells_same ho (Tells.sendHead h.shown ho rfl rfl) rfl rfl

omit [DecidableEq OutputId] in
theorem zipWith_append_drop (ms ms' : List ModeView) {confs : List NiriIpc.Mode}
    (h : ms.length ≤ confs.length) :
    ms.zipWith ModeView.sent confs ++ ms'.zipWith ModeView.sent (confs.drop ms.length) =
      (ms ++ ms').zipWith ModeView.sent confs := by
  have htake : (confs.take ms.length).length = ms.length := length_take_of_le h
  have hprefix : ms.zipWith ModeView.sent (confs.take ms.length) =
      ms.zipWith ModeView.sent confs := by
    have hmin : ms.zipWith ModeView.sent confs = _ := zipWith_eq_zipWith_take_min
    rw [min_eq_left h, take_length] at hmin
    exact hmin.symm
  rw [← hprefix, ← zipWith_append htake.symm, take_append_drop]

/-- The modes are patched, and there are as many as the output has. -/
theorem Sync.patchModes (h : Sync version data told) (ho : told o = some hv) (conf : NiriIpc.Output) :
    ∃ fresh : List ℕ, conf.modes.length ≤ hv.modes.length + fresh.length ∧
      Sync version (data.patchModes o conf) (update told o (some { hv with
        modes := (hv.modes ++ fresh.map ModeView.new).zipWith ModeView.sent conf.modes })) := by
  have hids : hv.modeIds.length = hv.modes.length := length_map ..
  have hlength : (hv.modeIds.zip conf.modes).length = min hv.modes.length conf.modes.length := by
    rw [length_zip, hids]
  have hall : hv.modes = [] ++ hv.modes := rfl
  have hsizes := Tells.foldl_sendSize h.shown ho hall conf.modes
  unfold ClientData.patchModes
  rw [h.withHead ho]
  simp only [hlength]
  obtain ⟨sized, hsized⟩ : ∃ sized, sized = (hv.modeIds.zip conf.modes).foldl
    (fun data entry => data.sendSize entry.1 entry.2) data := ⟨_, rfl⟩
  have hsizes : Tells data sized _ := hsized ▸ hsizes
  rw [← hsized]
  have hself := update_self o (some { hv with
    modes := hv.modes.zipWith ModeView.sent conf.modes ++ hv.modes.drop conf.modes.length }) told
  have hother : ∀ (entry : Head × List ℕ) o', o' ≠ o →
      (data.heads.insert o entry).lookup o' = data.heads.lookup o' :=
    fun entry o' hne => lookup_insert_of_ne _ hne
  by_cases hadded : hv.modes.length < conf.modes.length
  · rw [min_eq_left hadded.le, if_pos hadded]
    rw [drop_eq_nil_of_le hadded.le, append_nil] at hsizes hself
    have hhead : (⟨hv.id, version⟩ : Head).id = hv.id := rfl
    obtain ⟨fresh, hfresh, hmodes, hadd⟩ := Tells.foldl_addMode hsizes.shown hself hhead
      (conf.modes.drop hv.modes.length) hv.modeIds
    rw [update_idem] at hadd
    rw [length_drop] at hfresh
    have hzip := zipWith_append_drop hv.modes (fresh.map ModeView.new) hadded.le
    simp only [hzip] at hadd
    refine ⟨fresh, by omega, ?_⟩
    have htells := hsizes.trans hadd
    have hheads := htells.heads
    have hnewIds : (hv.modes ++ fresh.map ModeView.new).map ModeView.id = hv.modeIds ++ fresh := by
      rw [map_append, List.map_map]
      exact congrArg (hv.modeIds ++ ·) (List.map_id' fresh)
    have hids' := modeIds_zipWith (hv.modes ++ fresh.map ModeView.new) conf.modes (by
      rw [length_append, length_map]
      omega)
    generalize (conf.modes.drop hv.modes.length).foldl _ _ = r at hmodes htells hheads
    obtain ⟨data', modes'⟩ := r
    refine h.of_tells htells (data'.heads.insert o _) ?_ ?_
    · rw [lookup_insert]
      show some (_, modes') = some (_, HeadView.modeIds _)
      rw [show modes' = hv.modeIds ++ fresh from hmodes, ← hnewIds, ← hids']
      rfl
    · rw [show data'.heads = data.heads from hheads]
      exact hother _
  · have hle : conf.modes.length ≤ hv.modes.length := Nat.le_of_not_lt hadded
    have htake : (hv.modes.zipWith ModeView.sent conf.modes).map ModeView.id =
        hv.modeIds.take conf.modes.length := by
      have hmin : hv.modes.zipWith ModeView.sent conf.modes = _ :=
        zipWith_eq_zipWith_take_min
      rw [min_eq_right hle, take_length] at hmin
      rw [hmin, modeIds_zipWith _ _ (length_take_le ..), map_take]
      rfl
    refine ⟨[], by omega, ?_⟩
    rw [min_eq_right hle, if_neg (lt_irrefl _), map_nil, append_nil]
    rw [hids]
    by_cases hremoved : conf.modes.length < hv.modes.length
    · rw [if_pos hremoved]
      have hfinished := Tells.foldl_finished hsizes.shown hself rfl
      rw [update_idem] at hfinished
      have hdrop : (hv.modes.drop conf.modes.length).map ModeView.id =
          hv.modeIds.drop conf.modes.length := map_drop
      rw [hdrop] at hfinished
      have htells := hsizes.trans hfinished
      have hheads := htells.heads
      refine h.of_tells htells _ ?_ ?_
      · rw [lookup_insert, ← htake]
        rfl
      · rw [hheads]
        exact hother _
    · rw [if_neg hremoved]
      have heq : conf.modes.length = hv.modes.length := by omega
      rw [drop_eq_nil_of_le heq.ge, append_nil] at hsizes
      refine h.of_tells_same ho hsizes rfl ?_
      show (hv.modes.zipWith ModeView.sent conf.modes).map ModeView.id = hv.modeIds
      rw [htake, heq, ← hids, take_length]

omit [DecidableEq OutputId] in
theorem modeIds_introduced (fresh : List ℕ) (confs : List NiriIpc.Mode)
    (h : fresh.length = confs.length) :
    ((fresh.map ModeView.new).zipWith ModeView.introduced confs).map ModeView.id = fresh := by
  induction fresh generalizing confs with
  | nil => rfl
  | cons id fresh ih =>
    cases confs with
    | nil => cases h
    | cons mode confs =>
      rw [map_cons, zipWith_cons_cons, map_cons, ModeView.introduced_id, ih confs (Nat.succ.inj h)]
      rfl

/-- What a client is told of a new head, with its modes and its current mode. -/
def HeadView.introduced (version : ℕ) (conf : NiriIpc.Output) (id : ℕ) (modes : List ModeView)
    (current : Option ℕ) : HeadView :=
  let hv := (HeadView.new id).receiveAll (ClientData.introductionEvents conf)
  ({ hv with modes := modes, currentMode := current } : HeadView).receiveAll
    (ClientData.descriptionEvents version conf)

/-- A head comes. -/
theorem Sync.sendNewHead (h : Sync version data told) (ho : told o = none) (conf : NiriIpc.Output) :
    ∃ (fresh : List ℕ) (current : Option ℕ), fresh.length = conf.modes.length ∧
      (∀ i, conf.currentMode = some i → current = fresh[i]?) ∧
      Sync version (data.sendNewHead o conf) (update told o
        (some (HeadView.introduced version conf data.manager.nextId
          ((fresh.map ModeView.new).zipWith ModeView.introduced conf.modes) current))) := by
  obtain ⟨created, hcreated⟩ : ∃ created, created =
    data.createResource.2.send (.head data.manager.nextId) := ⟨_, rfl⟩
  have hcreate : Tells data created
      (update told o (some (HeadView.new data.manager.nextId))) := by
    rw [hcreated]
    exact ⟨Shows.create h.shown ho, rfl, rfl⟩
  have hhead : (⟨data.manager.nextId, version⟩ : Head).id =
    (HeadView.new data.manager.nextId).id := rfl
  have hintro := Tells.sendHeads hcreate.shown (update_self ..) hhead
    (isPlain_introductionEvents conf)
  rw [update_idem] at hintro
  obtain ⟨hid, hmodes⟩ := receiveAll_plain (isPlain_introductionEvents conf)
    (HeadView.new data.manager.nextId)
  have hmodes : _ = [] := hmodes
  obtain ⟨fresh, current, hlength, hcurrent, hfresh, hloop⟩ := Tells.foldl_sendNewMode
    hintro.shown (update_self ..) (hhead.trans hid.symm) conf conf.modes [] 0
  rw [update_idem] at hloop
  obtain ⟨looped, hlooped⟩ : ∃ looped, looped = conf.modes.zipIdx.foldl
    (ClientData.sendNewMode conf ⟨data.manager.nextId, version⟩)
    (created.sendHeads ⟨data.manager.nextId, version⟩
      (ClientData.introductionEvents conf), []) := ⟨_, rfl⟩
  rw [← hlooped] at hloop hfresh
  have hdescribe := Tells.sendHeads hloop.shown (update_self ..) (hhead.trans hid.symm)
    (isPlain_descriptionEvents version conf)
  rw [update_idem, hmodes, nil_append] at hdescribe
  have htells := ((hcreate.trans hintro).trans hloop).trans hdescribe
  obtain ⟨hid', hmodes'⟩ := receiveAll_plain
    (isPlain_descriptionEvents version conf)
    { (HeadView.new data.manager.nextId).receiveAll (ClientData.introductionEvents conf) with
      modes := (fresh.map ModeView.new).zipWith ModeView.introduced conf.modes
      currentMode := current }
  refine ⟨fresh, current, hlength, ?_, ?_⟩
  · intro i hi
    rw [hcurrent i hi, if_neg (not_lt_zero i), currentMode_introductionEvents, or_none]
    rfl
  · obtain ⟨described, hdescribed⟩ : ∃ described, described = looped.1.sendHeads
      ⟨data.manager.nextId, version⟩
      (ClientData.descriptionEvents version conf) := ⟨_, rfl⟩
    rw [← hdescribed] at htells
    have hnew : data.sendNewHead o conf = { described with
        heads := described.heads.insert o
          (⟨data.manager.nextId, version⟩, looped.2) } := by
      rw [hdescribed, hlooped, hcreated, ← h.bound]
      rfl
    rw [hnew]
    have hids := congrArg (List.map ModeView.id) hmodes'
    rw [modeIds_introduced fresh conf.modes hlength] at hids
    refine h.of_tells htells _ ?_ ?_
    · rw [lookup_insert]
      have hfresh : looped.2 = fresh := hfresh
      have hid' : _ = data.manager.nextId := hid'.trans hid
      rw [hfresh]
      unfold HeadView.modeIds
      rw [hid', hids]
    · intro o' hne
      rw [lookup_insert_of_ne _ hne, htells.heads]

/-- A head goes. -/
theorem Sync.removeHead (h : Sync version data told) (o : OutputId) :
    Sync version (data.removeHead o) (update told o none) := by
  cases ho : told o with
  | none =>
    have hsame : data.removeHead o = data := by
      unfold ClientData.removeHead ClientData.withHead
      rw [h.heads, ho]
      rfl
    rw [hsame, ← ho, update_eq_self]
    exact h
  | some hv =>
    unfold ClientData.removeHead
    rw [h.withHead ho]
    have hall : hv.modes = [] ++ hv.modes := rfl
    have herased : ({ data with heads := data.heads.erase o } : ClientData OutputId).Shown told :=
      h.shown
    have hfinished := Tells.foldl_finished herased ho hall
    obtain ⟨finished, hfold⟩ : ∃ finished, finished = (hv.modes.map ModeView.id).foldl
      (fun data m => data.sendMode m .finished) { data with heads := data.heads.erase o } :=
      ⟨_, rfl⟩
    have hfinished : Tells _ finished _ := hfold ▸ hfinished
    have hgone := Shows.finish hfinished.shown (update_self ..)
    rw [update_idem] at hgone
    suffices hsync : Sync version (finished.sendHead ⟨hv.id, version⟩ .finished)
        (update told o none) by
      rw [hfold] at hsync
      exact hsync
    refine ⟨hgone, hfinished.version.trans h.bound, fun o' => ?_⟩
    show finished.heads.lookup o' = _
    rw [hfinished.heads]
    show (data.heads.erase o).lookup o' = _
    by_cases heq : o' = o
    · subst heq
      rw [lookup_erase, update_self]
      rfl
    · rw [lookup_erase_ne heq, update_of_ne heq, h.heads]

end Sync

end Tiri.Protocols.OutputManagement
