import Tiri.Protocols.HeadChange

/-!
# The wlr-output-management heads mirror the outputs

The outputs change in any order with clients that bind the manager.

Results:
* `related_changes`: every client follows a change of the outputs;
* `heads_mirrored_iff`: the heads agree with the outputs all along a run exactly when every refresh rate
  can be told and no change has more modes or fewer along with another current mode.
-/

namespace Tiri.Protocols.OutputManagement

open Run Option List Finmap Function HashMap

/-! ## Changes of the outputs -/

section Follows

variable {OutputId ClientId : Type} [DecidableEq OutputId] [DecidableEq ClientId] {version : ℕ}
variable {o : OutputId} {old conf : NiriIpc.Output} {data data' data'' : ClientData OutputId}

/-- A client is told of a change of the head of an output. -/
def Turns (o : OutputId) (R : ℕ → HeadView → HeadView → Prop) (data data' : ClientData OutputId) :
    Prop :=
  ∀ version told hv, Sync version data told → told o = some hv →
    ∃ hv', R version hv hv' ∧ Sync version data' (update told o (some hv'))

theorem Turns.refl (o : OutputId) (data : ClientData OutputId) :
    Turns o (fun _ hv hv' => hv' = hv) data data := by
  intro version told hv hsync ho
  refine ⟨hv, rfl, ?_⟩
  rw [← ho, update_eq_self]
  exact hsync

variable {R R' : ℕ → HeadView → HeadView → Prop}

theorem Turns.trans (h : Turns o R data data') (h' : Turns o R' data' data'') :
    Turns o (fun version hv hv'' => ∃ hv', R version hv hv' ∧ R' version hv' hv'') data data'' := by
  intro version told hv hsync ho
  obtain ⟨hv', hR, hsync'⟩ := h version told hv hsync ho
  obtain ⟨hv'', hR', hsync''⟩ := h' version _ hv' hsync' (update_self ..)
  rw [update_idem] at hsync''
  exact ⟨hv'', ⟨hv', hR, hR'⟩, hsync''⟩

theorem Turns.mono (h : Turns o R data data')
    (hR : ∀ version hv hv', R version hv hv' → R' version hv hv') : Turns o R' data data' := by
  intro version told hv hsync ho
  obtain ⟨hv', hhv', hsync'⟩ := h version told hv hsync ho
  exact ⟨hv', hR version hv hv' hhv', hsync'⟩

theorem turns_sendHeadsOf {events : List HeadEvent}
    (hplain : ∀ event ∈ events, event.isPlain = true) (data : ClientData OutputId) :
    Turns o (fun _ hv hv' => hv' = hv.receiveAll events) data (data.sendHeadsOf o events) :=
  fun _ _ hv hsync ho => ⟨hv.receiveAll events, rfl, hsync.sendHeadsOf ho hplain⟩

theorem turns_sendCurrentMode (newIndex : ℕ) (data : ClientData OutputId) :
    Turns o (fun _ hv hv' => hv' = hv.withCurrentMode newIndex) data
      (data.sendCurrentMode o newIndex) :=
  fun _ _ hv hsync ho => ⟨hv.withCurrentMode newIndex, rfl, hsync.sendCurrentMode ho newIndex⟩

variable {f : ClientData OutputId → ClientData OutputId}

omit [DecidableEq OutputId] in
/-- The clients are told under a condition. -/
theorem related_tell_ite {R : ClientData OutputId → ClientData OutputId → Prop} (c : Prop)
    [Decidable c] (hpos : c → ∀ data, R data (f data)) (hneg : ¬ c → ∀ data, R data data)
    (acc : Changes OutputId ClientId) :
    HashMap.Related R acc.1 (if c then acc.tell f else acc).1 := by
  by_cases hc : c
  · rw [if_pos hc]
    exact related_mapValues (hpos hc) acc.1
  · rw [if_neg hc]
    exact HashMap.Related.refl (hneg hc) acc.1

theorem related_diffVrr (o : OutputId) (old conf : NiriIpc.Output)
    (acc : Changes OutputId ClientId) :
    HashMap.Related (Turns o fun version hv hv' => hv' = hv.diffVrr version old conf) acc.1
      (acc.diffVrr o old conf).1 := by
  refine related_tell_ite _ (fun hc data => ?_) (fun hc data => ?_) acc
  · intro version told hv hsync ho
    refine ⟨_, rfl, ?_⟩
    unfold HeadView.diffVrr
    rw [if_pos hc]
    exact hsync.sendAdaptiveSync ho conf
  · refine (Turns.refl o data).mono fun version hv hv' heq => ?_
    unfold HeadView.diffVrr
    rw [if_neg hc, heq]

theorem related_diffModes (o : OutputId) (old conf : NiriIpc.Output)
    (acc : Changes OutputId ClientId) :
    HashMap.Related (Turns o fun _ hv hv' => hv.DiffModes old conf hv') acc.1
      (acc.diffModes o old conf).1 := by
  refine related_tell_ite _ (fun hc data => ?_) (fun hc data => ?_) acc
  · intro version told hv hsync ho
    obtain ⟨fresh, hlength, hpatched⟩ := hsync.patchModes ho conf
    exact ⟨_, (if_pos hc).mpr ⟨fresh, hlength, rfl⟩, hpatched⟩
  · refine (Turns.refl o data).mono fun version hv hv' heq => ?_
    unfold HeadView.DiffModes
    rw [if_neg hc]
    exact heq

theorem related_diffCurrentMode (o : OutputId) (old conf : NiriIpc.Output)
    (acc : Changes OutputId ClientId) :
    HashMap.Related (Turns o fun _ hv hv' => hv' = hv.diffCurrentMode old conf) acc.1
      (acc.diffCurrentMode o old conf).1 := by
  have henabled : ∀ enabled, ∀ event ∈ [HeadEvent.enabled enabled], event.isPlain = true :=
    fun _ => all_eq_true.mp rfl
  unfold Changes.diffCurrentMode HeadView.diffCurrentMode
  cases old.currentMode with
  | none =>
    cases conf.currentMode with
    | none => exact HashMap.Related.refl (Turns.refl o) acc.1
    | some newIndex =>
      refine related_tell_ite _ (fun hc data => ?_) (fun hc data => ?_) acc
      · simp only [if_pos hc]
        refine ((turns_sendHeadsOf (henabled true) data).trans
          (turns_sendCurrentMode newIndex _)).mono ?_
        rintro version hv hv'' ⟨hv', rfl, rfl⟩
        rfl
      · simp only [if_neg hc]
        exact Turns.refl o data
  | some oldIndex =>
    cases conf.currentMode with
    | none => exact related_mapValues (turns_sendHeadsOf (henabled false)) acc.1
    | some newIndex =>
      refine related_tell_ite _ (fun hc data => ?_) (fun hc data => ?_) acc
      · simp only [if_pos hc]
        exact turns_sendCurrentMode newIndex data
      · simp only [if_neg hc]
        exact Turns.refl o data

theorem related_diffLogical (o : OutputId) (old conf : NiriIpc.Output)
    (acc : Changes OutputId ClientId) :
    HashMap.Related (Turns o fun _ hv hv' => hv' = hv.diffLogical old conf) acc.1
      (acc.diffLogical o old conf).1 := by
  unfold Changes.diffLogical HeadView.diffLogical
  cases old.logical with
  | none =>
    cases conf.logical with
    | none => exact HashMap.Related.refl (Turns.refl o) acc.1
    | some newLogical =>
      exact related_mapValues (turns_sendHeadsOf (isPlain_logicalEvents newLogical)) acc.1
  | some oldLogical =>
    cases conf.logical with
    | none => exact HashMap.Related.refl (Turns.refl o) acc.1
    | some newLogical =>
      refine related_tell_ite _ (fun hc data => ?_) (fun hc data => ?_) acc
      · simp only [if_pos hc]
        exact turns_sendHeadsOf (isPlain_logicalChangeEvents oldLogical newLogical) data
      · simp only [if_neg hc]
        exact Turns.refl o data

/-- An output that was there: its head changes with it. -/
theorem related_notifyOutput {currentState : HashMap OutputId NiriIpc.Output}
    (hold : currentState.lookup o = some old) (conf : NiriIpc.Output)
    (acc : Changes OutputId ClientId) :
    HashMap.Related (Turns o fun version hv hv' => hv.Diff version old conf hv') acc.1
      (Changes.notifyOutput currentState o conf acc).1 := by
  unfold Changes.notifyOutput
  rw [hold]
  have htrans : ∀ {R R' : ℕ → HeadView → HeadView → Prop} {m m' m'' : HashMap ClientId _},
      HashMap.Related (Turns o R) m m' → HashMap.Related (Turns o R') m' m'' →
      HashMap.Related (Turns o fun version hv hv'' => ∃ hv', R version hv hv' ∧ R' version hv' hv'')
        m m'' := fun h h' => h.trans h' fun _ _ _ => Turns.trans
  have hall := htrans (htrans (htrans (related_diffVrr o old conf acc)
    (related_diffModes o old conf _)) (related_diffCurrentMode o old conf _))
    (related_diffLogical o old conf _)
  refine hall.mono fun data data' hturns => hturns.mono ?_
  rintro version hv hv' ⟨hv₃, ⟨hv₂, ⟨hv₁, rfl, hmodes⟩, rfl⟩, rfl⟩
  exact ⟨hv₂, hmodes, rfl⟩

/-! ## A loop over the outputs -/

variable {Pre : OutputId → Option HeadView → Prop}
variable {Post : OutputId → ℕ → Option HeadView → Option HeadView → Prop}

/-- A client is told of what becomes of an output. -/
def Acts (Pre : OutputId → Option HeadView → Prop)
    (Post : OutputId → ℕ → Option HeadView → Option HeadView → Prop) (o : OutputId)
    (data data' : ClientData OutputId) : Prop :=
  ∀ version told, Sync version data told → Pre o (told o) →
    ∃ after, Post o version (told o) after ∧ Sync version data' (update told o after)

/-- A client is told of what becomes of the outputs in a list. -/
def ActsAll (Pre : OutputId → Option HeadView → Prop)
    (Post : OutputId → ℕ → Option HeadView → Option HeadView → Prop) (l : List OutputId)
    (data data' : ClientData OutputId) : Prop :=
  ∀ version told, Sync version data told → (∀ o ∈ l, Pre o (told o)) →
    ∃ told', Sync version data' told' ∧ (∀ o ∈ l, Post o version (told o) (told' o)) ∧
      ∀ o ∉ l, told' o = told o

theorem ActsAll.nil (data : ClientData OutputId) : ActsAll Pre Post [] data data :=
  fun _ told hsync _ => ⟨told, hsync, fun _ hmem => absurd hmem not_mem_nil, fun _ _ => rfl⟩

variable {l : List OutputId} {acc : Changes OutputId ClientId}

theorem ActsAll.cons (hnot : o ∉ l) (hfirst : Acts Pre Post o data data')
    (hl : ActsAll Pre Post l data' data'') : ActsAll Pre Post (o :: l) data data'' := by
  intro version told hsync hpre
  have hother : ∀ o' ∈ l, o' ≠ o := fun o' ho' heq => hnot (heq ▸ ho')
  obtain ⟨after, hafter, hsync'⟩ := hfirst version told hsync (hpre o (mem_cons_self ..))
  obtain ⟨told', hsync'', hmem, hrest⟩ := hl version _ hsync' fun o' ho' => by
    rw [update_of_ne (hother o' ho')]
    exact hpre o' (mem_cons_of_mem _ ho')
  refine ⟨told', hsync'', ?_, ?_⟩
  · intro o' ho'
    rcases mem_cons.mp ho' with rfl | ho'
    · rw [hrest o' hnot, update_self]
      exact hafter
    · have hpost := hmem o' ho'
      rw [update_of_ne (hother o' ho')] at hpost
      exact hpost
  · intro o' ho'
    obtain ⟨hne, ho'⟩ := not_or.mp fun h => ho' (mem_cons.mpr h)
    rw [hrest o' ho', update_of_ne hne]

/-- What a client is told of each output it is told of all of them. -/
theorem actsAll_foldl {g : ClientData OutputId → OutputId → ClientData OutputId}
    (hg : ∀ data o, Acts Pre Post o data (g data o)) (hnodup : l.Nodup) (data : ClientData OutputId) :
    ActsAll Pre Post l data (l.foldl g data) := by
  induction l generalizing data with
  | nil => exact ActsAll.nil data
  | cons o l ih =>
    obtain ⟨hnot, hnodup⟩ := nodup_cons.mp hnodup
    exact ActsAll.cons hnot (hg data o) (ih hnodup (g data o))

variable {g : Changes OutputId ClientId → OutputId → Changes OutputId ClientId}

/-- What the clients are told of each output they are told of all of them. -/
theorem related_foldl (hg : ∀ acc o, HashMap.Related (Acts Pre Post o) acc.1 (g acc o).1)
    (hnodup : l.Nodup) (acc : Changes OutputId ClientId) :
    HashMap.Related (ActsAll Pre Post l) acc.1 (l.foldl g acc).1 := by
  induction l generalizing acc with
  | nil => exact HashMap.Related.refl ActsAll.nil acc.1
  | cons o l ih =>
    obtain ⟨hnot, hnodup⟩ := nodup_cons.mp hnodup
    exact (hg acc o).trans (ih hnodup (g acc o)) fun _ _ _ => ActsAll.cons hnot

/-- The change of an output conveys how it is now, which for one that was not there only takes that
its refresh rates can be told. -/
def ConveysFrom (old : Option NiriIpc.Output) (conf : NiriIpc.Output) : Prop :=
  match old with
  | some old => Conveys old conf
  | none => Fits conf

variable (currentState : HashMap OutputId NiriIpc.Output)

/-- A client is told of the output where it is there, and only then. -/
def Known (o : OutputId) (before : Option HeadView) : Prop :=
  Option.Rel HeadView.Tracks (currentState.lookup o) before

/-- What a client is told of an output of the new state. -/
def Notified (newState : HashMap OutputId NiriIpc.Output) (o : OutputId) (version : ℕ)
    (before after : Option HeadView) : Prop :=
  ∀ conf, newState.lookup o = some conf →
    ∃ hv', after = some hv' ∧ hv'.Tracks conf ∧
      ((∀ old hv, currentState.lookup o = some old → before = some hv → hv.Agrees version old) →
        (hv'.Agrees version conf ↔ ConveysFrom (currentState.lookup o) conf))

variable (newState : HashMap OutputId NiriIpc.Output)

theorem acts_notifyOutput (acc : Changes OutputId ClientId) (o : OutputId) :
    HashMap.Related (Acts (Known currentState) (Notified currentState newState) o) acc.1
      (match newState.lookup o with
        | some conf => Changes.notifyOutput currentState o conf acc
        | none => acc).1 := by
  cases hnew : newState.lookup o with
  | none =>
    refine HashMap.Related.refl (fun data version told hsync _ => ⟨told o, ?_, ?_⟩) acc.1
    · intro conf hconf
      rw [hnew] at hconf
      cases hconf
    · rw [update_eq_self]
      exact hsync
  | some conf =>
    cases hold : currentState.lookup o with
    | some old =>
      refine (related_notifyOutput hold conf acc).mono fun data data' hturns => ?_
      intro version told hsync hknown
      unfold Known at hknown
      rw [hold] at hknown
      obtain ⟨hv, ho, htracks⟩ : ∃ hv, told o = some hv ∧ hv.Tracks old := by
        generalize told o = before at hknown
        cases hknown with
        | some htracks => exact ⟨_, rfl, htracks⟩
      obtain ⟨hv', hdiff, hsync'⟩ := hturns version told hv hsync ho
      refine ⟨some hv', ?_, hsync'⟩
      intro conf' hconf'
      rw [hnew] at hconf'
      obtain rfl := some.inj hconf'
      refine ⟨hv', rfl, hdiff.tracks htracks, fun hagrees => ?_⟩
      have hnodup' := hsync'.shown.nodup o hv' (update_self ..)
      rw [hold]
      exact hdiff.agrees_iff htracks (hagrees old hv hold ho) (hsync.shown.nodup o hv ho) hnodup'
    | none =>
      unfold Changes.notifyOutput
      rw [hold]
      refine related_mapValues (fun data version told hsync hknown => ?_) acc.1
      unfold Known at hknown
      rw [hold] at hknown
      have ho : told o = none := by
        generalize told o = before at hknown
        cases hknown
        rfl
      obtain ⟨fresh, current, hlength, hcurrent, hsync'⟩ := hsync.sendNewHead ho conf
      obtain ⟨htracks, hagrees⟩ :=
        introduced_tracks version hlength hcurrent data.manager.nextId
      refine ⟨_, ?_, hsync'⟩
      intro conf' hconf'
      rw [hnew] at hconf'
      obtain rfl := some.inj hconf'
      refine ⟨_, rfl, htracks, fun _ => ?_⟩
      rw [hold]
      exact hagrees

/-- What a client is told of an output of the old state. -/
def Retained (newState : HashMap OutputId NiriIpc.Output) (o : OutputId) (_version : ℕ)
    (before after : Option HeadView) : Prop :=
  after = if o ∈ newState then before else none

theorem acts_removeHead (acc : Changes OutputId ClientId) (o : OutputId) :
    HashMap.Related (Acts (fun _ _ => True) (Retained newState) o) acc.1
      (if o ∈ newState then acc else acc.tell (ClientData.removeHead o)).1 := by
  by_cases hmem : o ∈ newState
  · rw [if_pos hmem]
    refine HashMap.Related.refl (fun data version told hsync _ => ⟨told o, ?_, ?_⟩) acc.1
    · exact (if_pos hmem).symm
    · rw [update_eq_self]
      exact hsync
  · rw [if_neg hmem]
    refine related_mapValues (fun data version told hsync _ => ⟨none, ?_, ?_⟩) acc.1
    · exact (if_neg hmem).symm
    · exact hsync.removeHead o

/-- The client is told of the outputs that are there, and of no others. -/
def KnownAll (told : OutputId → Option HeadView) : Prop :=
  ∀ o, Known currentState o (told o)

/-- What the client is told of the outputs agrees with them. -/
def AgreesAll (version : ℕ) (currentState : HashMap OutputId NiriIpc.Output)
    (told : OutputId → Option HeadView) : Prop :=
  ∀ o conf hv, currentState.lookup o = some conf → told o = some hv → hv.Agrees version conf

/-- A client follows a change of the state, and what it is told agrees with the new state exactly
when the change of every output conveys how it is now. -/
def Follows (newState : HashMap OutputId NiriIpc.Output) (data data' : ClientData OutputId) :
    Prop :=
  ∀ version told, Sync version data told → KnownAll currentState told →
    ∃ told', Sync version data' told' ∧ KnownAll newState told' ∧
      (AgreesAll version currentState told → (AgreesAll version newState told' ↔
        ∀ o conf, newState.lookup o = some conf → ConveysFrom (currentState.lookup o) conf))

variable {s : OutputManagementManagerState OutputId ClientId} {newOrder oldOrder : List OutputId}

theorem related_changes {newState : HashMap OutputId NiriIpc.Output}
    (hnew : HashMap.Lists newOrder newState) (hold : HashMap.Lists oldOrder s.currentState) :
    HashMap.Related (Follows s.currentState newState) s.clients
      (s.changes newState newOrder oldOrder).1 := by
  have hnotify := related_foldl (acts_notifyOutput s.currentState newState) hnew.1
    (s.clients, false)
  have hremove := related_foldl (acts_removeHead newState) hold.1 (newOrder.foldl
    (fun acc output => match newState.lookup output with
      | some conf => Changes.notifyOutput s.currentState output conf acc
      | none => acc) (s.clients, false))
  refine hnotify.trans hremove ?_
  intro data data' data'' hnotified hremoved version told hsync hknown
  obtain ⟨told', hsync', hpost, hrest⟩ := hnotified version told hsync fun o _ => hknown o
  obtain ⟨told'', hsync'', hpost', hrest'⟩ := hremoved version told' hsync' fun _ _ => trivial
  -- The outputs of the new state are as they were notified.
  have hthere : ∀ o conf, newState.lookup o = some conf → ∃ hv', told'' o = some hv' ∧
      hv'.Tracks conf ∧
      ((∀ old hv, s.currentState.lookup o = some old → told o = some hv →
        hv.Agrees version old) →
        (hv'.Agrees version conf ↔ ConveysFrom (s.currentState.lookup o) conf)) := by
    intro o conf hconf
    have hmem : o ∈ newState := mem_of_lookup_eq_some hconf
    obtain ⟨hv', htold', hnotified⟩ := hpost o (hnew.mem_iff.mpr hmem) conf hconf
    refine ⟨hv', ?_, hnotified⟩
    by_cases hlisted : o ∈ oldOrder
    · rw [hpost' o hlisted, if_pos hmem, htold']
    · rw [hrest' o hlisted, htold']
  have hgone : ∀ o, newState.lookup o = none → told'' o = none := by
    intro o hnone
    have hnot : o ∉ newState := fun hmem => by
      obtain ⟨conf, hconf⟩ := mem_iff.mp hmem
      rw [hnone] at hconf
      cases hconf
    have htold' : told' o = told o := hrest o fun hlisted => hnot (hnew.mem_iff.mp hlisted)
    by_cases hlisted : o ∈ oldOrder
    · rw [hpost' o hlisted, if_neg hnot]
    · have hnotOld : s.currentState.lookup o = none := lookup_eq_none.mpr
        fun hmem => hlisted (hold.mem_iff.mpr hmem)
      have hbefore := hknown o
      unfold Known at hbefore
      rw [hnotOld] at hbefore
      rw [hrest' o hlisted, htold']
      generalize told o = before at hbefore
      cases hbefore
      rfl
  refine ⟨told'', hsync'', fun o => ?_, fun hagrees => ?_⟩
  · unfold Known
    cases hconf : newState.lookup o with
    | none =>
      rw [hgone o hconf]
      exact .none
    | some conf =>
      obtain ⟨hv', htold, htracks, -⟩ := hthere o conf hconf
      rw [htold]
      exact .some htracks
  · constructor
    · intro hall o conf hconf
      obtain ⟨hv', htold, -, hiff⟩ := hthere o conf hconf
      exact (hiff fun old hv => hagrees o old hv).mp (hall o conf hv' hconf htold)
    · intro hall o conf hv hconf htold
      obtain ⟨hv', htold', -, hiff⟩ := hthere o conf hconf
      rw [htold] at htold'
      obtain rfl := some.inj htold'
      exact (hiff fun old hv => hagrees o old hv).mpr (hall o conf hconf)

omit [DecidableEq OutputId] [DecidableEq ClientId] in
theorem tell_ite_unchanged {c : Prop} [Decidable c]
    (h : (if c then acc.tell f else acc).2 = false) :
    (if c then acc.tell f else acc) = acc ∧ ¬ c := by
  by_cases hc : c
  · rw [if_pos hc] at h
    cases h
  · exact ⟨if_neg hc, hc⟩

omit [DecidableEq ClientId] in
theorem notifyOutput_unchanged {currentState : HashMap OutputId NiriIpc.Output}
    (h : (Changes.notifyOutput currentState o conf acc).2 = false) :
    Changes.notifyOutput currentState o conf acc = acc ∧
      ∃ old, currentState.lookup o = some old ∧ old.modes = conf.modes := by
  have hlogical : ∀ {acc : Changes OutputId ClientId} {old},
      (acc.diffLogical o old conf).2 = false → acc.diffLogical o old conf = acc := by
    intro acc old h
    unfold Changes.diffLogical at h ⊢
    cases hold : old.logical <;> cases hconf : conf.logical <;> simp only [hold, hconf] at h ⊢
    · cases h
    · exact (tell_ite_unchanged h).1
  have hcurrent : ∀ {acc : Changes OutputId ClientId} {old},
      (acc.diffCurrentMode o old conf).2 = false → acc.diffCurrentMode o old conf = acc := by
    intro acc old h
    unfold Changes.diffCurrentMode at h ⊢
    cases hold : old.currentMode <;> cases hconf : conf.currentMode <;>
      simp only [hold, hconf] at h ⊢
    · exact (tell_ite_unchanged h).1
    · cases h
    · exact (tell_ite_unchanged h).1
  unfold Changes.notifyOutput at h ⊢
  cases hold : currentState.lookup o with
  | none =>
    rw [hold] at h
    cases h
  | some old =>
    rw [hold] at h
    have h₄ := hlogical h
    simp only [h₄] at h ⊢
    have h₃ := hcurrent h
    rw [h₃] at h ⊢
    obtain ⟨h₂, hmodes⟩ := tell_ite_unchanged (h : (Changes.diffModes o old conf _).2 = false)
    have h₂ : Changes.diffModes o old conf _ = _ := h₂
    rw [h₂] at h ⊢
    obtain ⟨h₁, -⟩ := tell_ite_unchanged (h : (Changes.diffVrr o old conf _).2 = false)
    exact ⟨h₁, old, rfl, not_not.mp hmodes⟩

omit [DecidableEq OutputId] [DecidableEq ClientId] in
theorem foldl_unchanged {P : OutputId → Prop}
    (hg : ∀ acc o, (g acc o).2 = false → g acc o = acc ∧ P o) (h : (l.foldl g acc).2 = false) :
    l.foldl g acc = acc ∧ ∀ o ∈ l, P o := by
  induction l generalizing acc with
  | nil => exact ⟨rfl, fun _ hmem => absurd hmem not_mem_nil⟩
  | cons o l ih =>
    obtain ⟨hrest, hl⟩ := ih h
    have hfirst : (g acc o).2 = false := by
      rw [← hrest]
      exact h
    obtain ⟨hsame, ho⟩ := hg acc o hfirst
    exact ⟨hrest.trans hsame, forall_mem_cons.mpr ⟨ho, hl⟩⟩

omit [DecidableEq ClientId] in
/-- Where nothing changed, nobody was told anything, and the outputs that are there were there with
the same modes. -/
theorem changes_unchanged {newState : HashMap OutputId NiriIpc.Output}
    (hnew : HashMap.Lists newOrder newState)
    (hchanged : (s.changes newState newOrder oldOrder).2 = false) :
    (s.changes newState newOrder oldOrder).1 = s.clients ∧
      ∀ o conf, newState.lookup o = some conf →
        ∃ old, s.currentState.lookup o = some old ∧ old.modes = conf.modes := by
  obtain ⟨hremoved, -⟩ := foldl_unchanged (P := fun _ => True) (fun acc o h => by
    by_cases hmem : o ∈ newState
    · exact ⟨if_pos hmem, trivial⟩
    · rw [if_neg hmem] at h
      cases h) hchanged
  have hremoved : s.changes newState newOrder oldOrder = _ := hremoved
  rw [hremoved] at hchanged ⊢
  obtain ⟨hnotified, hall⟩ := foldl_unchanged (P := fun o => ∀ conf, newState.lookup o = some conf →
    ∃ old, s.currentState.lookup o = some old ∧ old.modes = conf.modes) (fun acc o h => by
    cases hconf : newState.lookup o with
    | none =>
      refine ⟨rfl, fun conf hnone => ?_⟩
      cases hnone
    | some conf =>
      rw [hconf] at h
      obtain ⟨hsame, hold⟩ := notifyOutput_unchanged h
      refine ⟨hsame, fun conf' hconf' => ?_⟩
      obtain rfl := some.inj hconf'
      exact hold) hchanged
  refine ⟨congrArg Prod.fst hnotified, fun o conf hconf => ?_⟩
  exact hall o (hnew.mem_iff.mpr (mem_of_lookup_eq_some hconf)) conf hconf

end Follows

/-! ## Runs -/

variable {OutputId ClientId : Type}

/-- What happens, with the orders in which the hash maps are iterated. -/
inductive Step (OutputId ClientId : Type)
  | notifyChanges (newState : HashMap OutputId NiriIpc.Output) (newOrder oldOrder : List OutputId)
  | bind (client : ClientId) (version : ℕ) (order : List OutputId)

variable [DecidableEq OutputId] [DecidableEq ClientId]

/-- The client sees a head for each output and no others, and each agrees with its output. -/
structure Mirrors (version : ℕ) (currentState : HashMap OutputId NiriIpc.Output)
    (handle : OutputId → ℕ) (view : View) : Prop where
  exists_iff : ∀ id, (∃ hv, view id = some hv) ↔ ∃ o ∈ currentState, handle o = id
  injective : ∀ o ∈ currentState, ∀ o' ∈ currentState, handle o = handle o' → o = o'
  agrees : ∀ o conf, currentState.lookup o = some conf →
    ∃ hv, view (handle o) = some hv ∧ hv.Agrees version conf

/-- The handle of the head of an output. -/
def ClientData.handle (data : ClientData OutputId) (o : OutputId) : ℕ :=
  match data.heads.lookup o with
  | some (head, _) => head.id
  | none => 0

namespace OutputManagementManagerState

/-- There are no outputs and no clients yet. -/
def start : OutputManagementManagerState OutputId ClientId where
  serial := 0
  clients := ∅
  currentState := ∅
  currentConfig := []

variable (s : OutputManagementManagerState OutputId ClientId)

/-- What a step does, where it can happen.  A client binds the manager once. -/
def step : Step OutputId ClientId → Option (OutputManagementManagerState OutputId ClientId)
  | .notifyChanges newState newOrder oldOrder =>
    if HashMap.Lists newOrder newState ∧ HashMap.Lists oldOrder s.currentState then
      s.notifyChanges newState newOrder oldOrder
    else none
  | .bind client version order =>
    if client ∉ s.clients ∧ 1 ≤ version ∧ version ≤ VERSION ∧
        HashMap.Lists order s.currentState then
      some (s.bind client version order)
    else none

/-- Every client mirrors the outputs. -/
def Mirrored : Prop :=
  ∀ client data, s.clients.lookup client = some data →
    Mirrors data.manager.version s.currentState data.handle data.manager.current

/-- The events of the step convey the outputs to every client that they are sent to. -/
def Conveyed : Step OutputId ClientId → Prop
  | .notifyChanges newState _ _ => s.clients ≠ ∅ →
    ∀ o conf, newState.lookup o = some conf → ConveysFrom (s.currentState.lookup o) conf
  | .bind _ _ _ => ∀ o conf, s.currentState.lookup o = some conf → Fits conf

/-- Every client is told of the outputs that are there, and saw what it was told. -/
def Kept : Prop :=
  ∀ client data, s.clients.lookup client = some data →
    data.manager.current = data.manager.pending ∧
      ∃ told, Sync data.manager.version data told ∧ KnownAll s.currentState told

variable {s s' : OutputManagementManagerState OutputId ClientId}

variable {currentState : HashMap OutputId NiriIpc.Output} {told : OutputId → Option HeadView}
variable {version : ℕ} {data : ClientData OutputId}

section

omit [DecidableEq ClientId]

variable {o : OutputId}

theorem known_some {conf : NiriIpc.Output} (h : KnownAll currentState told)
    (ho : currentState.lookup o = some conf) : ∃ hv, told o = some hv ∧ hv.Tracks conf := by
  have hknown := h o
  unfold Known at hknown
  rw [ho] at hknown
  generalize told o = before at hknown
  cases hknown with
  | some htracks => exact ⟨_, rfl, htracks⟩

theorem known_of_some {hv : HeadView} (h : KnownAll currentState told) (ho : told o = some hv) :
    o ∈ currentState := by
  have hknown := h o
  unfold Known at hknown
  rw [ho] at hknown
  by_contra hnot
  rw [lookup_eq_none.mpr hnot] at hknown
  cases hknown

/-- A client that was told of the outputs mirrors them exactly when what it was told agrees. -/
theorem mirrors_iff (hsync : Sync version data told) (hknown : KnownAll currentState told) :
    Mirrors version currentState data.handle data.manager.pending ↔
      AgreesAll version currentState told := by
  have hhandle : ∀ o hv, told o = some hv → data.handle o = hv.id := by
    intro o hv ho
    unfold ClientData.handle
    rw [hsync.heads, ho]
    rfl
  constructor
  · intro h o conf hv hconf ho
    obtain ⟨hv', hview, hagrees⟩ := h.agrees o conf hconf
    rw [hhandle o hv ho, hsync.shown.seen o hv ho] at hview
    exact some.inj hview ▸ hagrees
  · intro h
    refine ⟨fun id => ⟨?_, ?_⟩, ?_, ?_⟩
    · rintro ⟨hv, hview⟩
      obtain ⟨hid, o, ho⟩ := hsync.shown.only id hv hview
      exact ⟨o, known_of_some hknown ho, (hhandle o hv ho).trans hid⟩
    · rintro ⟨o, hmem, rfl⟩
      obtain ⟨conf, hconf⟩ := mem_iff.mp hmem
      obtain ⟨hv, ho, -⟩ := known_some hknown hconf
      exact ⟨hv, by rw [hhandle o hv ho, hsync.shown.seen o hv ho]⟩
    · intro o hmem o' hmem' heq
      obtain ⟨conf, hconf⟩ := mem_iff.mp hmem
      obtain ⟨conf', hconf'⟩ := mem_iff.mp hmem'
      obtain ⟨hv, ho, -⟩ := known_some hknown hconf
      obtain ⟨hv', ho', -⟩ := known_some hknown hconf'
      rw [hhandle o hv ho, hhandle o' hv' ho'] at heq
      exact hsync.shown.injective o o' hv hv' ho ho' heq
    · intro o conf hconf
      obtain ⟨hv, ho, -⟩ := known_some hknown hconf
      refine ⟨hv, ?_, h o conf hv hconf ho⟩
      rw [hhandle o hv ho, hsync.shown.seen o hv ho]

end

omit [DecidableEq OutputId] [DecidableEq ClientId] in
/-- The client takes the heads as they are. -/
theorem current_done (data : ClientData OutputId) (serial : ℕ) :
    (data.send (.done serial)).manager.current = (data.send (.done serial)).manager.pending := rfl

section

omit [DecidableEq ClientId]

/-- `manager.done` changes nothing that is told of the heads. -/
theorem sync_done (h : Sync version data told) (serial : ℕ) :
    Sync version (data.send (.done serial)) told :=
  ⟨h.shown, h.bound, h.heads⟩

theorem sync_finishChange (h : Sync version data told) (serial : ℕ) :
    Sync version (data.finishChange serial) told :=
  ⟨h.shown, h.bound, h.heads⟩

/-- A client that followed a change mirrors the outputs once it is done exactly when the change of
every output conveys how it is now. -/
theorem follows_finishChange {newState : HashMap OutputId NiriIpc.Output}
    {data' : ClientData OutputId} (hfollows : Follows currentState newState data data')
    (hsaw : data.manager.current = data.manager.pending)
    (hsync : Sync data.manager.version data told) (hknown : KnownAll currentState told) (serial : ℕ) :
    let done := data'.finishChange serial
    done.manager.current = done.manager.pending ∧
      (∃ told', Sync done.manager.version done told' ∧ KnownAll newState told') ∧
      (Mirrors data.manager.version currentState data.handle data.manager.current →
        (Mirrors done.manager.version newState done.handle done.manager.current ↔
          ∀ o conf, newState.lookup o = some conf →
            ConveysFrom (currentState.lookup o) conf)) := by
  intro done
  obtain ⟨told', hsync', hknown', hiff⟩ := hfollows _ told hsync hknown
  have hdone : Sync data.manager.version done told' := sync_finishChange hsync' serial
  rw [hdone.bound]
  refine ⟨rfl, ⟨told', hdone, hknown'⟩, fun hmirrors => ?_⟩
  rw [hsaw, mirrors_iff hsync hknown] at hmirrors
  exact (mirrors_iff hdone hknown').trans (hiff hmirrors)

end

/-- A change of the outputs. -/
theorem Kept.notifyChanges (h : s.Kept) {newState : HashMap OutputId NiriIpc.Output}
    {newOrder oldOrder : List OutputId} (hnew : HashMap.Lists newOrder newState)
    (hold : HashMap.Lists oldOrder s.currentState)
    (hs : s.notifyChanges newState newOrder oldOrder = some s') :
    s'.Kept ∧ (s.Mirrored →
      (s'.Mirrored ↔ s.Conveyed (.notifyChanges newState newOrder oldOrder))) := by
  have hrelated := related_changes hnew hold
  unfold OutputManagementManagerState.notifyChanges at hs
  by_cases hchanged : (s.changes newState newOrder oldOrder).2 = true
  · simp only [if_pos hchanged] at hs
    obtain ⟨-, rfl⟩ := ite_some_none_eq_some.mp hs
    have hfrom : ∀ client data', (HashMap.mapValues (ClientData.finishChange (s.serial + 1))
        (s.changes newState newOrder oldOrder).1).lookup client = some data' →
        ∃ data data₁, s.clients.lookup client = some data ∧
          Follows s.currentState newState data data₁ ∧
          data' = data₁.finishChange (s.serial + 1) := by
      intro client data' hdata'
      rw [lookup_mapValues] at hdata'
      obtain ⟨data₁, hdata₁, rfl⟩ := map_eq_some_iff.mp hdata'
      obtain ⟨data, hdata, hfollows⟩ := hrelated.lookup hdata₁
      exact ⟨data, data₁, hdata, hfollows, rfl⟩
    refine ⟨fun client data' hdata' => ?_, fun hmirrored => ⟨?_, ?_⟩⟩
    · obtain ⟨data, data₁, hdata, hfollows, rfl⟩ := hfrom client data' hdata'
      obtain ⟨hsaw, told, hsync, hknown⟩ := h client data hdata
      obtain ⟨hsaw', hkept, -⟩ := follows_finishChange hfollows hsaw hsync hknown (s.serial + 1)
      exact ⟨hsaw', hkept⟩
    · intro hmirrored' hne
      obtain ⟨client, data, hdata⟩ := exists_lookup hne
      obtain ⟨data₁, hdata₁, hfollows⟩ := hrelated.lookup_left hdata
      obtain ⟨hsaw, told, hsync, hknown⟩ := h client data hdata
      obtain ⟨-, -, hiff⟩ := follows_finishChange hfollows hsaw hsync hknown (s.serial + 1)
      refine (hiff (hmirrored client data hdata)).mp (hmirrored' client _ ?_)
      exact (lookup_mapValues ..).trans (congrArg (Option.map _) hdata₁)
    · intro hconveyed client data' hdata'
      obtain ⟨data, data₁, hdata, hfollows, rfl⟩ := hfrom client data' hdata'
      obtain ⟨hsaw, told, hsync, hknown⟩ := h client data hdata
      obtain ⟨-, -, hiff⟩ := follows_finishChange hfollows hsaw hsync hknown (s.serial + 1)
      have hne : s.clients ≠ ∅ := by
        intro hempty
        rw [hempty, lookup_empty] at hdata
        cases hdata
      exact (hiff (hmirrored client data hdata)).mpr (hconveyed hne)
  · simp only [if_neg hchanged, some.injEq] at hs
    obtain ⟨hclients, hmodes⟩ := changes_unchanged hnew (Bool.not_eq_true _ |>.mp hchanged)
    rw [hclients] at hs
    obtain rfl := hs
    refine ⟨h, fun hmirrored => iff_of_true hmirrored fun hne o conf hconf => ?_⟩
    -- The refresh rates were told before.
    obtain ⟨old, hlookup, hsame⟩ := hmodes o conf hconf
    obtain ⟨client, data, hdata⟩ := exists_lookup hne
    obtain ⟨hsaw, told, hsync, hknown⟩ := h client data hdata
    have hmirrors := hmirrored client data hdata
    rw [hsaw, mirrors_iff hsync hknown] at hmirrors
    obtain ⟨hv, ho, htracks⟩ := known_some hknown hlookup
    have hfits := fits_of_agreesModes htracks (hmirrors o old hv hlookup ho).modes
    rw [hlookup]
    refine ⟨?_, .inl (by rw [hsame])⟩
    unfold Fits at hfits ⊢
    rw [← hsame]
    exact hfits

omit [DecidableEq ClientId] in
/-- A client that binds the manager is told of the outputs that are there. -/
theorem acts_sendOutput (currentState : HashMap OutputId NiriIpc.Output)
    (data : ClientData OutputId) (o : OutputId) :
    Acts (fun _ before => before = none) (Notified ∅ currentState) o data
      (ClientData.sendOutput currentState data o) := by
  intro version told hsync ho
  unfold ClientData.sendOutput
  cases hconf : currentState.lookup o with
  | none =>
    refine ⟨told o, ?_, ?_⟩
    · intro conf hconf'
      rw [hconf] at hconf'
      cases hconf'
    · rw [update_eq_self]
      exact hsync
  | some conf =>
    obtain ⟨fresh, current, hlength, hcurrent, hsync'⟩ := hsync.sendNewHead ho conf
    obtain ⟨htracks, hagrees⟩ :=
      introduced_tracks version hlength hcurrent data.manager.nextId
    refine ⟨_, ?_, hsync'⟩
    intro conf' hconf'
    rw [hconf] at hconf'
    obtain rfl := some.inj hconf'
    exact ⟨_, rfl, htracks, fun _ => hagrees⟩

variable {order : List OutputId}

omit [DecidableEq ClientId] in
/-- What a client is told that binds the manager. -/
theorem sync_bind (horder : HashMap.Lists order currentState) (version serial : ℕ) :
    ∃ told, Sync version ((order.foldl (ClientData.sendOutput currentState)
      ({ heads := ∅, confs := ∅, manager := Manager.new version } : ClientData OutputId)).send
        (.done serial)) told ∧ KnownAll currentState told ∧
        (AgreesAll version currentState told ↔
          ∀ o conf, currentState.lookup o = some conf → Fits conf) := by
  have hstart : Sync version
      ({ heads := ∅, confs := ∅, manager := Manager.new version } : ClientData OutputId)
      (fun _ => none) := ⟨Shows.empty, rfl, fun _ => lookup_empty _⟩
  obtain ⟨told, hsync, hpost, hrest⟩ := actsAll_foldl (acts_sendOutput currentState) horder.1 _
    version _ hstart fun _ _ => rfl
  have hthere : ∀ o conf, currentState.lookup o = some conf → ∃ hv, told o = some hv ∧
      hv.Tracks conf ∧ (hv.Agrees version conf ↔ Fits conf) := by
    intro o conf hconf
    have hlisted := horder.mem_iff.mpr (mem_of_lookup_eq_some hconf)
    obtain ⟨hv, ho, htracks, hagrees⟩ := hpost o hlisted conf hconf
    have hnone : (∅ : HashMap OutputId NiriIpc.Output).lookup o = none := lookup_empty o
    exact ⟨hv, ho, htracks, hagrees fun old hv' hold => by cases hold⟩
  refine ⟨told, sync_done hsync serial, fun o => ?_, ?_, ?_⟩
  · unfold Known
    cases hconf : currentState.lookup o with
    | none =>
      rw [hrest o fun hlisted => lookup_eq_none.mp hconf (horder.mem_iff.mp hlisted)]
      exact .none
    | some conf =>
      obtain ⟨hv, ho, htracks, -⟩ := hthere o conf hconf
      rw [ho]
      exact .some htracks
  · intro hall o conf hconf
    obtain ⟨hv, ho, -, hagrees⟩ := hthere o conf hconf
    exact hagrees.mp (hall o conf hv hconf ho)
  · intro hall o conf hv hconf ho
    obtain ⟨hv', ho', -, hagrees⟩ := hthere o conf hconf
    rw [ho] at ho'
    obtain rfl := some.inj ho'
    exact hagrees.mpr (hall o conf hconf)

/-- A client that binds the manager. -/
theorem Kept.bind (h : s.Kept) {client : ClientId} (horder : HashMap.Lists order s.currentState) :
    (s.bind client version order).Kept ∧ (s.Mirrored →
      ((s.bind client version order).Mirrored ↔ s.Conveyed (.bind client version order))) := by
  obtain ⟨told, hsync, hknown, hiff⟩ := sync_bind horder version s.serial
  obtain ⟨data, hdata⟩ : ∃ data : ClientData OutputId, data =
      (order.foldl (ClientData.sendOutput s.currentState)
      ({ heads := ∅, confs := ∅, manager := Manager.new version } : ClientData OutputId)).send
        (.done s.serial) := ⟨_, rfl⟩
  rw [← hdata] at hsync
  have hsaw : data.manager.current = data.manager.pending := by
    rw [hdata]
    exact current_done ..
  have hbind : s.bind client version order =
      { s with clients := s.clients.insert client data } := by
    rw [hdata]
    rfl
  rw [hbind]
  have hbound := hsync.bound
  have hother : ∀ client' data', client' ≠ client →
      (s.clients.insert client data).lookup client' = some data' →
      s.clients.lookup client' = some data' := by
    intro client' data' hne hlookup
    rw [lookup_insert_of_ne _ hne] at hlookup
    exact hlookup
  refine ⟨fun client' data' hlookup => ?_, fun hmirrored => ⟨?_, ?_⟩⟩
  · by_cases heq : client' = client
    · subst heq
      rw [lookup_insert] at hlookup
      obtain rfl := some.inj hlookup
      rw [hbound]
      exact ⟨hsaw, told, hsync, hknown⟩
    · exact h client' data' (hother client' data' heq hlookup)
  · intro hmirrored'
    have hmirrors := hmirrored' client data (lookup_insert _)
    rw [hsaw, hbound] at hmirrors
    exact hiff.mp ((mirrors_iff hsync hknown).mp hmirrors)
  · intro hconveyed client' data' hlookup
    by_cases heq : client' = client
    · subst heq
      rw [lookup_insert] at hlookup
      obtain rfl := some.inj hlookup
      rw [hsaw, hbound]
      exact (mirrors_iff hsync hknown).mpr (hiff.mpr hconveyed)
    · exact hmirrored client' data' (hother client' data' heq hlookup)

theorem start_kept : (start : OutputManagementManagerState OutputId ClientId).Kept := by
  intro client data hdata
  have hdata : (∅ : HashMap ClientId (ClientData OutputId)).lookup client = some data := hdata
  cases hdata

/-- A step. -/
theorem Kept.step {e : Step OutputId ClientId} (h : s.Kept) (hs : s.step e = some s') :
    s'.Kept ∧ (s.Mirrored → (s'.Mirrored ↔ s.Conveyed e)) := by
  cases e with
  | notifyChanges newState newOrder oldOrder =>
    obtain ⟨⟨hnew, hold⟩, hs⟩ := ite_none_right_eq_some.mp hs
    exact h.notifyChanges hnew hold hs
  | bind client version order =>
    obtain ⟨⟨-, -, -, horder⟩, rfl⟩ := ite_some_none_eq_some.mp hs
    exact h.bind horder

/-- **The heads mirror the outputs** after every `done` of a run, exactly when every refresh rate that
is told is an `i32`, and no change that a client is told of has more modes of an output or fewer
along with a current mode that was not the one at its index before. -/
theorem heads_mirrored_iff (es : List (Step OutputId ClientId)) :
    Always step Mirrored start es ↔ Along step Conveyed start es := by
  refine always_iff_along (J := Kept) (fun _ _ _ h hs => (h.step hs).1)
    (fun _ _ _ h hmirrored hs => (h.step hs).2 hmirrored) start_kept ?_
  intro client data hdata
  have hdata : (∅ : HashMap ClientId (ClientData OutputId)).lookup client = some data := hdata
  cases hdata

/-! ## A custom mode -/

/-- An output of which one of the modes is the current one. -/
def outputWith (modes : List NiriIpc.Mode) (i : ℕ) (h : i < modes.length) : NiriIpc.Output where
  name := "DP-1"
  make := "Unknown"
  model := "Unknown"
  serial := none
  physicalSize := none
  modes := modes
  currentMode := some i
  vrrEnabled := false
  logical := none
  currentMode_lt := fun _ hi => some.inj hi ▸ h

/-- A mode of the output. -/
def modeOf (width height : ℕ) : NiriIpc.Mode where
  width := width
  height := height
  refreshRate := 60000
  isPreferred := false

/-- The second mode is the current one, until a custom mode comes before the others. -/
def customRun : List (Step Unit Unit) :=
  [.bind () 4 [], .notifyChanges (Finmap.singleton ()
      (outputWith [modeOf 3840 2160, modeOf 1920 1080] 1 (by decide))) [()] [],
    .notifyChanges (Finmap.singleton ()
      (outputWith [modeOf 1280 720, modeOf 3840 2160, modeOf 1920 1080] 0 (by decide))) [()] [()]]

/-- The first mode is the current one of the output, and not of the head. -/
def isStale (s : OutputManagementManagerState Unit Unit) : Bool :=
  (s.clients.lookup ()).any fun data => (s.currentState.lookup ()).any fun conf =>
    decide (conf.currentMode = some 0) && (data.manager.current (data.handle ())).all fun hv =>
      decide ((hv.modes[0]?).map ModeView.id ≠ hv.currentMode)

/-- The client still has the mode at the old index as the current one. -/
theorem customRun_not_mirrored : ¬ Always step Mirrored start customRun := by
  intro h
  have hrun : (exec step start customRun).any isStale = true := by decide +kernel
  obtain ⟨s, hs, hstale⟩ := (any_eq_true _ _).mp hrun
  obtain ⟨data, hdata, hstale⟩ := (any_eq_true _ _).mp hstale
  obtain ⟨conf, hconf, hstale⟩ := (any_eq_true _ _).mp hstale
  obtain ⟨hfirst, hstale⟩ := Bool.and_eq_true_iff.mp hstale
  obtain ⟨hv, hview, hagrees⟩ := ((h.finish hs) () data hdata).agrees () conf hconf
  obtain ⟨m, hm, hcurrent⟩ := hagrees.currentMode.2 0 (of_decide_eq_true hfirst)
  rw [hview] at hstale
  refine of_decide_eq_true hstale ?_
  rw [hm, hcurrent]
  rfl

end OutputManagementManagerState

end Tiri.Protocols.OutputManagement
