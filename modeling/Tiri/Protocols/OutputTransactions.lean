import Tiri.Lib.Run
import Tiri.Protocols.ConfigurationSteps

/-!
# A configuration is applied once

Clients make requests on configurations in any order with changes of the outputs.

Results:
* `tracked_exec`: a configuration that is going on holds what was enabled and disabled through it;
* `applies_once`: the outputs are configured only by a configuration of the current serial that was
  not used yet, with an entry for each head that was enabled or disabled through it.
-/

namespace Tiri.Protocols.OutputManagement

open Run Option List OutputManagementManagerState
open Finmap hiding mem_singleton

variable {OutputId ClientId : Type} [DecidableEq OutputId] [DecidableEq ClientId]

namespace World

variable {w w' : World OutputId ClientId} {es : List (Event OutputId ClientId)}
variable {e : Event OutputId ClientId} {id serial : ℕ} {client : ClientId}

/-! ## What clients do -/

omit [DecidableEq OutputId] [DecidableEq ClientId] in
/-- The configuration was created with the serial that is current. -/
def Current (id : ℕ) (w : World OutputId ClientId) : Prop :=
  ∃ client, w.confs.lookup id = some (client, w.state.serial)

/-- A configuration of the current serial is applied or tested. -/
def Uses (id : ℕ) (w : World OutputId ClientId) (e : Event OutputId ClientId) : Prop :=
  ((∃ order, e = .apply id order) ∨ e = .test id) ∧ Current id w

/-- A head of an output that is there is enabled through a configuration of the current serial. -/
def Enables (id : ℕ) (o : OutputId) (w : World OutputId ClientId)
    (e : Event OutputId ClientId) : Prop :=
  (∃ confHead, e = .enableHead id confHead (some o)) ∧ Current id w ∧ o ∈ w.state.currentState

/-- A head of an output that is there is disabled through a configuration of the current serial. -/
def Disables (id : ℕ) (o : OutputId) (w : World OutputId ClientId)
    (e : Event OutputId ClientId) : Prop :=
  e = .disableHead id (some o) ∧ Current id w ∧ o ∈ w.state.currentState

/-- A head is enabled or disabled. -/
def Configures (id : ℕ) (o : OutputId) (w : World OutputId ClientId)
    (e : Event OutputId ClientId) : Prop :=
  Enables id o w e ∨ Disables id o w e

/-- A configuration that is going on holds what was enabled and disabled through it, in entries for
the outputs of the heads. -/
structure Tracks (es : List (Event OutputId ClientId)) (w : World OutputId ClientId)
    (id serial : ℕ) (newConfig : HashMap OutputId NiriConfig.Output) : Prop where
  unused : ¬ Happened step (Uses id) start es
  mem_iff : ∀ o, o ∈ newConfig ↔ Happened step (Configures id o) start es
  enabled : ∀ o config, newConfig.lookup o = some config → config.off = false →
    Happened step (Enables id o) start es
  known : serial = w.state.serial → ∀ o config, newConfig.lookup o = some config →
    ∃ output, w.state.currentState.lookup o = some output ∧
      (NiriConfig.OutputName.fromIpcOutput output).matchesTarget config.name = true
  early : w.state.serial < serial → ∀ o, o ∉ newConfig

/-- Each configuration was created, and one that is going on holds what was enabled and disabled
through it. -/
structure Tracked (es : List (Event OutputId ClientId)) (w : World OutputId ClientId) : Prop where
  created : ∀ id ∈ w.confs, id ∈ w.created
  createdBy : ∀ id client serial, w.confs.lookup id = some (client, serial) →
    .createConfiguration client id serial ∈ es
  happened : ∀ id, Happened step (fun w _ => Current id w) start es → id ∈ w.created
  held : ∀ client id state, w.state.conf client id = some state →
    ∃ serial, w.confs.lookup id = some (client, serial) ∧
      ∀ newConfig, state = .ongoing newConfig → Tracks es w id serial newConfig

theorem tracked_start : Tracked [] (start : World OutputId ClientId) where
  created := fun _ h => absurd h notMem_empty
  createdBy := fun id client serial h => by rw [start, lookup_empty] at h; cases h
  happened := fun _ h => h.elim
  held := fun client id state h => by
    unfold start OutputManagementManagerState.conf at h
    rw [lookup_empty] at h
    cases h

/-- The outputs change only with the serial, which only grows. -/
def Advances (w w' : World OutputId ClientId) : Prop :=
  w'.state.serial = w.state.serial ∧ w'.state.currentState = w.state.currentState ∨
    w.state.serial < w'.state.serial

variable {newConfig : HashMap OutputId NiriConfig.Output}

section

variable (h : Tracks es w id serial newConfig)
include h

/-- An event that neither uses a configuration nor adds a head to it. -/
theorem Tracks.keep (hexec : exec step start es = some w) (hw : Advances w w')
    (huses : ¬ Uses id w e) (hconfigures : ∀ o, Configures id o w e → o ∈ newConfig) :
    Tracks (es ++ [e]) w' id serial newConfig where
  unused := by
    rw [happened_concat hexec]
    exact not_or.mpr ⟨h.unused, huses⟩
  mem_iff := by
    intro o
    rw [happened_concat hexec, ← h.mem_iff o]
    exact ⟨.inl, fun hor => hor.elim (fun hmem => hmem) (hconfigures o)⟩
  enabled := by
    intro o config hlookup hoff
    rw [happened_concat hexec]
    exact .inl (h.enabled o config hlookup hoff)
  known := by
    intro hserial o config hlookup
    rcases hw with ⟨hsame, hstate⟩ | hlt
    · rw [hstate]
      exact h.known (hserial.trans hsame) o config hlookup
    · exact absurd (mem_of_lookup_eq_some hlookup) (h.early (hserial ▸ hlt) o)
  early := by
    intro hlt
    rcases hw with ⟨hsame, -⟩ | hlt'
    · exact h.early (hsame ▸ hlt)
    · exact h.early (hlt'.trans hlt)

omit h in
omit [DecidableEq OutputId] [DecidableEq ClientId] in
theorem current_iff (h : w.confs.lookup id = some (client, serial)) :
    Current id w ↔ serial = w.state.serial := by
  constructor
  · rintro ⟨client', hcurrent⟩
    rw [h, some.injEq, Prod.mk.injEq] at hcurrent
    exact hcurrent.2
  · rintro rfl
    exact ⟨client, h⟩

/-- A head is enabled or disabled. -/
theorem Tracks.configure {head : Option OutputId} {off : Bool}
    {newConfig' : HashMap OutputId NiriConfig.Output} (hexec : exec step start es = some w)
    (hserial : w'.state.serial = w.state.serial)
    (hstate : w'.state.currentState = w.state.currentState)
    (hconf : w.state.configured serial head off (.ongoing newConfig) = .ongoing newConfig')
    (huses : ¬ Uses id w e)
    (hconfigures : ∀ o, Configures id o w e ↔
      head = some o ∧ serial = w.state.serial ∧ o ∈ w.state.currentState)
    (henables : off = false → ∀ o, Configures id o w e → Enables id o w e) :
    Tracks (es ++ [e]) w' id serial newConfig' := by
  have hkeep : (∀ o, Configures id o w e → o ∈ newConfig) →
      Tracks (es ++ [e]) w' id serial newConfig :=
    h.keep hexec (.inl ⟨hserial, hstate⟩) huses
  unfold OutputManagementManagerState.configured at hconf
  cases head with
  | none =>
    cases hconf
    refine hkeep fun o ho => ?_
    cases ((hconfigures o).mp ho).1
  | some output =>
    simp only at hconf
    split at hconf
    · rename_i hnone
      cases hconf
      refine hkeep fun o ho => ?_
      obtain ⟨heq, -, hmem⟩ := (hconfigures o).mp ho
      cases heq
      exact absurd hmem (lookup_eq_none.mp hnone)
    · rename_i currentConfig hcurrent
      split at hconf
      · rename_i hnew
        cases hconf
        obtain ⟨hcurrentSerial, hnot⟩ := hnew
        have houtput : output ∈ w.state.currentState :=
          Finmap.mem_iff.mpr ⟨currentConfig, hcurrent⟩
        have hevent : Configures id output w e :=
          (hconfigures output).mpr ⟨rfl, hcurrentSerial, houtput⟩
        refine ⟨?_, fun o => ?_, fun o config hlookup hoff => ?_,
          fun _ o config hlookup => ?_, fun hlt => ?_⟩
        · rw [happened_concat hexec]
          exact not_or.mpr ⟨h.unused, huses⟩
        · rw [happened_concat hexec, mem_insert, ← h.mem_iff o, or_comm]
          refine or_congr_right ⟨?_, fun ho => ?_⟩
          · rintro rfl
            exact hevent
          · obtain ⟨heq, -, -⟩ := (hconfigures o).mp ho
            exact (some.inj heq).symm
        · rw [happened_concat hexec]
          by_cases ho : o = output
          · subst ho
            rw [lookup_insert, some.injEq] at hlookup
            subst hlookup
            exact .inr (henables hoff o hevent)
          · rw [lookup_insert_of_ne _ ho] at hlookup
            exact .inl (h.enabled o config hlookup hoff)
        · rw [hstate]
          by_cases ho : o = output
          · subst ho
            rw [lookup_insert, some.injEq] at hlookup
            subst hlookup
            exact ⟨currentConfig, hcurrent, w.state.matchesTarget_configFor currentConfig⟩
          · rw [lookup_insert_of_ne _ ho] at hlookup
            exact h.known hcurrentSerial o config hlookup
        · rw [hserial, hcurrentSerial] at hlt
          exact absurd hlt (lt_irrefl _)
      · rename_i hold
        cases hconf
        refine hkeep fun o ho => ?_
        obtain ⟨heq, hcurrentSerial, -⟩ := (hconfigures o).mp ho
        cases heq
        exact not_not.mp fun hnot => hold ⟨hcurrentSerial, hnot⟩

/-- An entry changes, and is not turned on or off, nor named otherwise. -/
theorem Tracks.insert {output : OutputId} {config config' : NiriConfig.Output}
    (hlookup : newConfig.lookup output = some config)
    (hkept : config'.off = config.off ∧ config'.name = config.name) :
    Tracks es w id serial (newConfig.insert output config') := by
  have hmem : ∀ o, o ∈ newConfig.insert output config' ↔ o ∈ newConfig := by
    intro o
    rw [mem_insert]
    refine ⟨?_, .inr⟩
    rintro (rfl | ho)
    · exact Finmap.mem_iff.mpr ⟨config, hlookup⟩
    · exact ho
  refine ⟨h.unused, fun o => (hmem o).trans (h.mem_iff o), fun o config'' hlookup' hoff' => ?_,
    fun hserial o config'' hlookup' => ?_, fun hlt o ho => h.early hlt o ((hmem o).mp ho)⟩
  · by_cases ho : o = output
    · subst ho
      rw [lookup_insert, some.injEq] at hlookup'
      subst hlookup'
      exact h.enabled o config hlookup (hkept.1 ▸ hoff')
    · rw [lookup_insert_of_ne _ ho] at hlookup'
      exact h.enabled o config'' hlookup' hoff'
  · by_cases ho : o = output
    · subst ho
      rw [lookup_insert, some.injEq] at hlookup'
      subst hlookup'
      exact hkept.2 ▸ h.known hserial o config hlookup
    · rw [lookup_insert_of_ne _ ho] at hlookup'
      exact h.known hserial o config'' hlookup'

end

/-! ## One event -/

/-- What has to be shown of the configurations that are held after an event. -/
theorem Tracked.step_of (h : Tracked es w) (hexec : exec step start es = some w)
    (hconfs : ∀ id client serial, w'.confs.lookup id = some (client, serial) →
      w.confs.lookup id = some (client, serial) ∨
        e = .createConfiguration client id serial ∧ id ∈ w'.created)
    (hcreated : ∀ id ∈ w.created, id ∈ w'.created)
    (hheld : ∀ client id state, w'.state.conf client id = some state →
      ∃ serial, w'.confs.lookup id = some (client, serial) ∧
        ∀ newConfig, state = .ongoing newConfig → Tracks (es ++ [e]) w' id serial newConfig) :
    Tracked (es ++ [e]) w' where
  created := by
    intro id hid
    obtain ⟨⟨client, serial⟩, hlookup⟩ := Finmap.mem_iff.mp hid
    rcases hconfs id client serial hlookup with hold | ⟨-, hnew⟩
    · exact hcreated id (h.created id (Finmap.mem_iff.mpr ⟨_, hold⟩))
    · exact hnew
  createdBy := by
    intro id client serial hlookup
    rw [mem_append, mem_singleton]
    rcases hconfs id client serial hlookup with hold | ⟨hnew, -⟩
    · exact .inl (h.createdBy id client serial hold)
    · exact .inr hnew.symm
  happened := by
    intro id hhappened
    rw [happened_concat hexec] at hhappened
    rcases hhappened with hold | ⟨client, hcurrent⟩
    · exact hcreated id (h.happened id hold)
    · exact hcreated id (h.created id (Finmap.mem_iff.mpr ⟨_, hcurrent⟩))
  held := hheld

/-- An event that is no request on a configuration. -/
theorem Tracked.quiet (h : Tracked es w) (hexec : exec step start es = some w)
    (hconfs : w'.confs = w.confs) (hcreated : w'.created = w.created) (hw : Advances w w')
    (huses : ∀ id, ¬ Uses id w e) (hconfigures : ∀ id o, ¬ Configures id o w e)
    (hconf : ∀ client id state, w'.state.conf client id = some state →
      w.state.conf client id = some state) : Tracked (es ++ [e]) w' := by
  refine h.step_of hexec (fun id client serial hlookup => .inl (hconfs ▸ hlookup))
    (fun id hid => hcreated ▸ hid) fun client id state hstate => ?_
  obtain ⟨serial, hlookup, htracks⟩ := h.held client id state (hconf client id state hstate)
  refine ⟨serial, hconfs ▸ hlookup, fun newConfig hongoing => ?_⟩
  exact (htracks newConfig hongoing).keep hexec hw (huses id)
    fun o ho => absurd ho (hconfigures id o)

variable {client₀ : ClientId} {serial₀ : ℕ}

section

variable (h : Tracked es w) (hexec : exec step start es = some w)
include h hexec

variable {id₀ : ℕ}

/-- A request on a configuration. -/
theorem Tracked.request (hlookup₀ : w.confs.lookup id₀ = some (client₀, serial₀))
    (hconfs : w'.confs = w.confs) (hcreated : w'.created = w.created)
    (hframe : w.state.Frame client₀ id₀ w'.state) (huses : ∀ id, id ≠ id₀ → ¬ Uses id w e)
    (hconfigures : ∀ id o, id ≠ id₀ → ¬ Configures id o w e)
    (hown : ∀ newConfig', w'.state.conf client₀ id₀ = some (.ongoing newConfig') →
      ∃ newConfig, w.state.conf client₀ id₀ = some (.ongoing newConfig) ∧
        (Tracks es w id₀ serial₀ newConfig → Tracks (es ++ [e]) w' id₀ serial₀ newConfig')) :
    Tracked (es ++ [e]) w' := by
  refine h.step_of hexec (fun id client serial hlookup => .inl (hconfs ▸ hlookup))
    (fun id hid => hcreated ▸ hid) fun client id state hstate => ?_
  by_cases htarget : client = client₀ ∧ id = id₀
  · obtain ⟨rfl, rfl⟩ := htarget
    refine ⟨serial₀, hconfs ▸ hlookup₀, fun newConfig' hongoing => ?_⟩
    subst hongoing
    obtain ⟨newConfig, hconf, htracks⟩ := hown newConfig' hstate
    obtain ⟨serial, hlookup, hheld⟩ := h.held client id _ hconf
    rw [hlookup₀, some.injEq, Prod.mk.injEq] at hlookup
    obtain ⟨-, rfl⟩ := hlookup
    exact htracks (hheld newConfig rfl)
  · rw [hframe.conf client id (not_and_or.mp htarget)] at hstate
    obtain ⟨serial, hlookup, htracks⟩ := h.held client id state hstate
    have hid : id ≠ id₀ := by
      rintro rfl
      rw [hlookup₀, some.injEq, Prod.mk.injEq] at hlookup
      exact htarget ⟨hlookup.1.symm, rfl⟩
    refine ⟨serial, hconfs ▸ hlookup, fun newConfig hongoing => ?_⟩
    exact (htracks newConfig hongoing).keep hexec (.inl ⟨hframe.serial, hframe.currentState⟩)
      (huses id hid) fun o ho => absurd ho (hconfigures id o hid)

omit hexec in
omit h in
/-- A head is enabled or disabled through a configuration. -/
theorem Tracked.configure (head : Option OutputId) (off : Bool) (h : Tracked es w)
    (hexec : exec step start es = some w) (hlookup₀ : w.confs.lookup id₀ = some (client₀, serial₀))
    (hconfs : w'.confs = w.confs) (hcreated : w'.created = w.created)
    (hrequested : Requested client₀ ⟨id₀, serial₀⟩ (w.state.configured serial₀ head off)
      w.state w'.state) (huses : ∀ id, ¬ Uses id w e)
    (hconfigures : ∀ id o, Configures id o w e ↔
      head = some o ∧ id = id₀ ∧ Current id w ∧ o ∈ w.state.currentState)
    (henables : off = false → ∀ o, Configures id₀ o w e → Enables id₀ o w e) :
    Tracked (es ++ [e]) w' := by
  have hframe := hrequested.frame
  refine h.request hexec hlookup₀ hconfs hcreated hframe (fun id _ => huses id)
    (fun id o hid ho => hid ((hconfigures id o).mp ho).2.1) fun newConfig' hongoing => ?_
  rw [hrequested.conf] at hongoing
  obtain ⟨state, hstate, hconfigured⟩ := map_eq_some_iff.mp hongoing
  cases state with
  | finished => cases hconfigured
  | ongoing newConfig =>
    refine ⟨newConfig, hstate, fun htracks => ?_⟩
    refine htracks.configure hexec hframe.serial hframe.currentState hconfigured (huses id₀)
      (fun o => ?_) henables
    rw [hconfigures id₀ o, current_iff hlookup₀]
    exact ⟨fun ⟨ho, _, hcurrent, hmem⟩ => ⟨ho, hcurrent, hmem⟩,
      fun ⟨ho, hcurrent, hmem⟩ => ⟨ho, rfl, hcurrent, hmem⟩⟩

/-- A configuration is applied or tested. -/
theorem Tracked.consume (hlookup₀ : w.confs.lookup id₀ = some (client₀, serial₀))
    (hconfs : w'.confs = w.confs) (hcreated : w'.created = w.created)
    (hframe : w.state.Frame client₀ id₀ w'.state)
    (hconf : w'.state.conf client₀ id₀ = (w.state.conf client₀ id₀).map (w.state.consumed serial₀))
    (huses : ∀ id, Uses id w e → id = id₀ ∧ Current id w)
    (hconfigures : ∀ id o, ¬ Configures id o w e) : Tracked (es ++ [e]) w' := by
  refine h.request hexec hlookup₀ hconfs hcreated hframe (fun id hid h => hid (huses id h).1)
    (fun id o _ => hconfigures id o) fun newConfig' hongoing => ?_
  rw [hconf] at hongoing
  obtain ⟨state, hstate, hconsumed⟩ := map_eq_some_iff.mp hongoing
  unfold OutputManagementManagerState.consumed at hconsumed
  split at hconsumed
  · cases hconsumed
  · rename_i hserial
    subst hconsumed
    refine ⟨newConfig', hstate, fun htracks => ?_⟩
    exact htracks.keep hexec (.inl ⟨hframe.serial, hframe.currentState⟩)
      (fun h => hserial ((current_iff hlookup₀).mp (huses id₀ h).2))
      fun o ho => absurd ho (hconfigures id₀ o)

theorem tracked_createConfiguration (hid : id ∉ w.created)
    (hw' : w' = { w with
      state := w.state.createConfiguration client ⟨id, serial⟩
      confs := w.confs.insert id (client, serial)
      created := insert id w.created }) :
    Tracked (es ++ [.createConfiguration client id serial]) w' := by
  obtain ⟨hserial, hcurrent⟩ :=
    outputs_createConfiguration (s := w.state) client ⟨id, serial⟩
  have huses : ∀ id', ¬ Uses id' w (.createConfiguration client id serial) := by
    rintro id' ⟨⟨_, h⟩ | h, -⟩ <;> cases h
  have hconfigures : ∀ id' o, ¬ Configures id' o w (.createConfiguration client id serial) := by
    rintro id' o (⟨⟨_, h⟩, -⟩ | ⟨h, -⟩) <;> cases h
  subst hw'
  refine h.step_of hexec (fun id' client' serial' hlookup => ?_)
    (fun id' hid' => Finset.mem_insert_of_mem hid') fun client' id' state hstate => ?_
  · by_cases heq : id' = id
    · subst heq
      rw [lookup_insert, some.injEq, Prod.mk.injEq] at hlookup
      obtain ⟨rfl, rfl⟩ := hlookup
      exact .inr ⟨rfl, Finset.mem_insert_self ..⟩
    · rw [lookup_insert_of_ne _ heq] at hlookup
      exact .inl hlookup
  · rcases conf_createConfiguration hstate with
      hold | ⟨rfl, rfl, rfl⟩
    · obtain ⟨serial', hlookup, htracks⟩ := h.held client' id' state hold
      have hne : id' ≠ id := by
        rintro rfl
        exact hid (h.created id' (Finmap.mem_iff.mpr ⟨_, hlookup⟩))
      refine ⟨serial', (lookup_insert_of_ne _ hne).trans hlookup, fun newConfig hongoing => ?_⟩
      exact (htracks newConfig hongoing).keep hexec (.inl ⟨hserial, hcurrent⟩) (huses id')
        fun o ho => absurd ho (hconfigures id' o)
    · refine ⟨serial, lookup_insert _, fun newConfig hongoing => ?_⟩
      cases hongoing
      -- Nothing was done through a configuration that is new.
      have hnever : ∀ {C : World OutputId ClientId → Event OutputId ClientId → Prop},
          (∀ w e, C w e → Current id' w) → ¬ Happened step C start es :=
        fun hC hhappened => hid (h.happened id' (hhappened.mono hC))
      refine ⟨?_, fun o => ?_, fun o config hlookup => ?_, fun _ o config hlookup => ?_,
        fun _ o => ?_⟩
      · rw [happened_concat hexec]
        exact not_or.mpr ⟨hnever fun _ _ h => h.2, huses id'⟩
      · rw [happened_concat hexec]
        refine iff_of_false notMem_empty (not_or.mpr ⟨hnever fun _ _ h => ?_, hconfigures id' o⟩)
        rcases h with h | h
        · exact h.2.1
        · exact h.2.1
      · cases hlookup
      · cases hlookup
      · exact notMem_empty

theorem tracked_destroy (hlookup₀ : w.confs.lookup id = some (client, serial))
    (hw' : w' = { w with
      state := w.state.destroy client ⟨id, serial⟩
      confs := w.confs.erase id }) : Tracked (es ++ [.destroy id]) w' := by
  have hframe := frame_destroy (s := w.state) client ⟨id, serial⟩
  have huses : ∀ id', ¬ Uses id' w (.destroy id) := by
    rintro id' ⟨⟨_, h⟩ | h, -⟩ <;> cases h
  have hconfigures : ∀ id' o, ¬ Configures id' o w (.destroy id) := by
    rintro id' o (⟨⟨_, h⟩, -⟩ | ⟨h, -⟩) <;> cases h
  subst hw'
  refine h.step_of hexec (fun id' client' serial' hlookup => ?_) (fun _ hid' => hid')
    fun client' id' state hstate => ?_
  · by_cases heq : id' = id
    · subst heq
      rw [lookup_erase] at hlookup
      cases hlookup
    · rw [lookup_erase_ne heq] at hlookup
      exact .inl hlookup
  · by_cases htarget : client' = client ∧ id' = id
    · obtain ⟨rfl, rfl⟩ := htarget
      rw [conf_destroy client' ⟨id', serial⟩] at hstate
      cases hstate
    · rw [hframe.conf client' id' (not_and_or.mp htarget)] at hstate
      obtain ⟨serial', hlookup, htracks⟩ := h.held client' id' state hstate
      have hid : id' ≠ id := by
        rintro rfl
        rw [hlookup₀, some.injEq, Prod.mk.injEq] at hlookup
        exact htarget ⟨hlookup.1.symm, rfl⟩
      refine ⟨serial', (lookup_erase_ne hid).trans hlookup, fun newConfig hongoing => ?_⟩
      exact (htracks newConfig hongoing).keep hexec (.inl ⟨hframe.serial, hframe.currentState⟩)
        (huses id') fun o ho => absurd ho (hconfigures id' o)

/-- A request of a head of a configuration. -/
theorem tracked_headRequest {confHead : ℕ} {data : OutputConfigurationHeadState OutputId}
    {request : ConfigurationHeadRequest}
    (hw' : w' = { w with state := w.state.headRequest client confHead data request }) :
    Tracked (es ++ [.headRequest confHead request]) w' := by
  have huses : ∀ id, ¬ Uses id w (.headRequest confHead request) := by
    rintro id ⟨⟨_, h⟩ | h, -⟩ <;> cases h
  have hconfigures : ∀ id o, ¬ Configures id o w (.headRequest confHead request) := by
    rintro id o (⟨⟨_, h⟩, -⟩ | ⟨h, -⟩) <;> cases h
  rcases headRequest_spec (s := w.state) client confHead data request
    with ⟨hserial, hstate, -, hconf⟩ |
      ⟨output, configuration, newConfig, config, config', -, -, hconf, hlookup, hkept, heq⟩
  · subst hw'
    exact h.quiet hexec rfl rfl (.inl ⟨hserial, hstate⟩) huses hconfigures
      fun client' id' state hstate => (hconf client' id').symm.trans hstate
  · obtain ⟨serial, hlookup₀, -⟩ := h.held client configuration.id _ hconf
    subst hw'
    have hframe : w.state.Frame client configuration.id
        (w.state.headRequest client confHead data request) := by
      rw [heq]
      exact frame_setConf client configuration.id _
    refine h.request hexec hlookup₀ rfl rfl hframe (fun id _ => huses id)
      (fun id o _ => hconfigures id o) fun newConfig' hongoing => ?_
    simp only [heq] at hongoing
    rw [conf_setConf_of_conf hconf, some.injEq] at hongoing
    cases hongoing
    refine ⟨newConfig, hconf, fun htracks => ?_⟩
    exact (htracks.keep hexec (.inl ⟨hframe.serial, hframe.currentState⟩) (huses _)
      fun o ho => absurd ho (hconfigures _ o)).insert hlookup hkept

/-- Each event. -/
theorem tracked_step (hstep : step w e = some w') : Tracked (es ++ [e]) w' := by
  have hstays : ∀ {state : OutputManagementManagerState OutputId ClientId},
      state.serial = w.state.serial → state.currentState = w.state.currentState →
      Advances w { w with state } := fun hserial hstate => .inl ⟨hserial, hstate⟩
  cases e with
  | notifyChanges newState newOrder oldOrder =>
    obtain ⟨-, hstep⟩ := ite_none_right_eq_some.mp hstep
    obtain ⟨state, hnotify, rfl⟩ := map_eq_some_iff.mp hstep
    obtain ⟨hconf, -, hchange⟩ := notifyChanges_spec hnotify
    refine h.quiet hexec rfl rfl ?_ ?_ ?_ fun client id state' hstate =>
      (hconf client id).symm.trans hstate
    · rcases hchange with hsame | ⟨hserial, -⟩
      · exact .inl hsame
      · exact .inr (by rw [hserial]; exact Nat.lt_succ_self _)
    · rintro id ⟨⟨_, h⟩ | h, -⟩ <;> cases h
    · rintro id o (⟨⟨_, h⟩, -⟩ | ⟨h, -⟩) <;> cases h
  | onConfigChanged newConfig =>
    obtain rfl := some.inj hstep
    refine h.quiet hexec rfl rfl (hstays rfl rfl) ?_ ?_ fun _ _ _ hstate => hstate
    · rintro id ⟨⟨_, h⟩ | h, -⟩ <;> cases h
    · rintro id o (⟨⟨_, h⟩, -⟩ | ⟨h, -⟩) <;> cases h
  | bind client version order =>
    obtain ⟨-, rfl⟩ := ite_some_none_eq_some.mp hstep
    refine h.quiet hexec rfl rfl (hstays rfl rfl) ?_ ?_ fun client' id state hstate =>
      conf_bind hstate
    · rintro id ⟨⟨_, h⟩ | h, -⟩ <;> cases h
    · rintro id o (⟨⟨_, h⟩, -⟩ | ⟨h, -⟩) <;> cases h
  | removeClient client =>
    obtain rfl := some.inj hstep
    refine h.quiet hexec rfl rfl (hstays rfl rfl) ?_ ?_ fun client' id state hstate =>
      conf_removeClient hstate
    · rintro id ⟨⟨_, h⟩ | h, -⟩ <;> cases h
    · rintro id o (⟨⟨_, h⟩, -⟩ | ⟨h, -⟩) <;> cases h
  | destroyHead client output =>
    obtain rfl := some.inj hstep
    refine h.quiet hexec rfl rfl
      (hstays (serial_modifyClient client _)
        (currentState_modifyClient client _)) ?_ ?_ ?_
    · rintro id ⟨⟨_, h⟩ | h, -⟩ <;> cases h
    · rintro id o (⟨⟨_, h⟩, -⟩ | ⟨h, -⟩) <;> cases h
    · intro client' id state hstate
      have hconf := conf_modifyClient_of_confs (s := w.state)
        (f := fun data => { data with heads := data.heads.erase output }) (fun _ => rfl) client
        client' id
      exact hconf.symm.trans hstate
  | createConfiguration client id serial =>
    obtain ⟨hid, hstep⟩ := ite_none_right_eq_some.mp hstep
    exact tracked_createConfiguration h hexec hid (some.inj hstep).symm
  | enableHead id confHead head =>
    obtain ⟨⟨client, serial⟩, hlookup, hstep⟩ := bind_eq_some_iff.mp hstep
    obtain ⟨-, rfl⟩ := ite_some_none_eq_some.mp hstep
    refine Tracked.configure head false h hexec hlookup rfl rfl
      (requested_enableHead client ⟨id, serial⟩ head) ?_ ?_ ?_
    · rintro id' ⟨⟨_, h⟩ | h, -⟩ <;> cases h
    · intro id' o
      constructor
      · rintro (⟨⟨_, heq⟩, hcurrent, hmem⟩ | ⟨heq, -⟩)
        · cases heq
          exact ⟨rfl, rfl, hcurrent, hmem⟩
        · cases heq
      · rintro ⟨rfl, rfl, hcurrent, hmem⟩
        exact .inl ⟨⟨confHead, rfl⟩, hcurrent, hmem⟩
    · rintro - o (henables | ⟨heq, -⟩)
      · exact henables
      · cases heq
  | disableHead id head =>
    obtain ⟨⟨client, serial⟩, hlookup, rfl⟩ := map_eq_some_iff.mp hstep
    refine Tracked.configure head true h hexec hlookup rfl rfl
      (requested_disableHead client ⟨id, serial⟩ head) ?_ ?_ ?_
    · rintro id' ⟨⟨_, h⟩ | h, -⟩ <;> cases h
    · intro id' o
      constructor
      · rintro (⟨⟨_, heq⟩, -⟩ | ⟨heq, hcurrent, hmem⟩)
        · cases heq
        · cases heq
          exact ⟨rfl, rfl, hcurrent, hmem⟩
      · rintro ⟨rfl, rfl, hcurrent, hmem⟩
        exact .inr ⟨rfl, hcurrent, hmem⟩
    · intro h
      cases h
  | apply id order =>
    obtain ⟨⟨client, serial⟩, hlookup, rfl⟩ := map_eq_some_iff.mp hstep
    refine h.consume hexec hlookup rfl rfl
      (frame_apply client ⟨id, serial⟩ order)
      (conf_apply client ⟨id, serial⟩ order) ?_ ?_
    · rintro id' ⟨⟨_, heq⟩ | heq, hcurrent⟩ <;> cases heq
      exact ⟨rfl, hcurrent⟩
    · rintro id' o (⟨⟨_, h⟩, -⟩ | ⟨h, -⟩) <;> cases h
  | test id =>
    obtain ⟨⟨client, serial⟩, hlookup, rfl⟩ := map_eq_some_iff.mp hstep
    refine h.consume hexec hlookup rfl rfl
      (requested_test client ⟨id, serial⟩).frame (requested_test client ⟨id, serial⟩).conf ?_ ?_
    · rintro id' ⟨⟨_, heq⟩ | heq, hcurrent⟩ <;> cases heq
      exact ⟨rfl, hcurrent⟩
    · rintro id' o (⟨⟨_, h⟩, -⟩ | ⟨h, -⟩) <;> cases h
  | destroy id =>
    obtain ⟨⟨client, serial⟩, hlookup, rfl⟩ := map_eq_some_iff.mp hstep
    exact tracked_destroy h hexec hlookup rfl
  | headRequest confHead request =>
    obtain ⟨⟨client, data⟩, -, rfl⟩ := map_eq_some_iff.mp hstep
    exact tracked_headRequest h hexec rfl

end

theorem tracked_exec (hexec : exec step start es = some w) : Tracked es w :=
  exec_induction (P := Tracked) tracked_start
    (fun _ _ _ _ hexec h hstep => tracked_step h hexec hstep) hexec

/-! ## Requests that are refused -/

/-- The configuration that a request is made on, and the client that holds it. -/
def target (w : World OutputId ClientId) : Event OutputId ClientId → Option (ClientId × Configuration)
  | .enableHead id _ _ | .disableHead id _ | .apply id _ | .test id | .destroy id =>
    (w.confs.lookup id).map fun (client, serial) => (client, ⟨id, serial⟩)
  | .headRequest confHead _ =>
    (w.confHeads.lookup confHead).bind fun (client, data) =>
      match data with
      | .ok _ configuration => some (client, configuration)
      | .cancelled => none
  | _ => none

/-- The configuration is outdated, was already used, or is not known. -/
def IsStale (w : World OutputId ClientId) (client : ClientId) (configuration : Configuration) :
    Prop :=
  configuration.serial ≠ w.state.serial ∨
    ∀ newConfig, w.state.conf client configuration.id ≠ some (.ongoing newConfig)

variable {configuration : Configuration}

omit [DecidableEq OutputId] [DecidableEq ClientId] in
theorem target_eq {client' : ClientId} {id serial : ℕ}
    (hlookup : w.confs.lookup id = some (client', serial))
    (h : ((w.confs.lookup id).map fun (client, serial) => (client, Configuration.mk id serial)) =
      some (client, configuration)) : client' = client ∧ ⟨id, serial⟩ = configuration := by
  rw [hlookup] at h
  exact Prod.mk.inj (some.inj h)

/-- A request on a configuration changes no other one, nor anything else if it is stale. -/
theorem target_spec (hstep : step w e = some w')
    (htarget : w.target e = some (client, configuration)) :
    w.state.Frame client configuration.id w'.state ∧ (w.IsStale client configuration →
      w'.state.currentConfig = w.state.currentConfig ∧ w.applies e = none) := by
  cases e with
  | enableHead id confHead head =>
    obtain ⟨⟨client', serial⟩, hlookup, hstep⟩ := bind_eq_some_iff.mp hstep
    obtain ⟨-, rfl⟩ := ite_some_none_eq_some.mp hstep
    obtain ⟨rfl, rfl⟩ := target_eq hlookup htarget
    have hrequested := requested_enableHead (s := w.state) client' ⟨id, serial⟩ head
    exact ⟨hrequested.frame, fun _ => ⟨hrequested.currentConfig, rfl⟩⟩
  | disableHead id head =>
    obtain ⟨⟨client', serial⟩, hlookup, rfl⟩ := map_eq_some_iff.mp hstep
    obtain ⟨rfl, rfl⟩ := target_eq hlookup htarget
    have hrequested := requested_disableHead (s := w.state) client' ⟨id, serial⟩ head
    exact ⟨hrequested.frame, fun _ => ⟨hrequested.currentConfig, rfl⟩⟩
  | apply id order =>
    obtain ⟨⟨client', serial⟩, hlookup, rfl⟩ := map_eq_some_iff.mp hstep
    obtain ⟨rfl, rfl⟩ := target_eq hlookup htarget
    refine ⟨frame_apply client' _ order, fun hstale => ?_⟩
    have hnone : (w.state.apply client' ⟨id, serial⟩ order).2 = none := by
      refine eq_none_iff_forall_not_mem.mpr fun newConfig happly => ?_
      obtain ⟨hserial, hconf, -⟩ := apply_eq_some happly
      rcases hstale with hne | hongoing
      · exact hne hserial
      · exact hongoing newConfig hconf
    obtain ⟨config, heq, hsame⟩ := apply_fst (s := w.state) client' ⟨id, serial⟩ order
    refine ⟨(congrArg currentConfig heq).trans (hsame hnone), ?_⟩
    simp only [applies, hlookup, bind_some]
    exact hnone
  | test id =>
    obtain ⟨⟨client', serial⟩, hlookup, rfl⟩ := map_eq_some_iff.mp hstep
    obtain ⟨rfl, rfl⟩ := target_eq hlookup htarget
    have hrequested := requested_test (s := w.state) client' ⟨id, serial⟩
    exact ⟨hrequested.frame, fun _ => ⟨hrequested.currentConfig, rfl⟩⟩
  | destroy id =>
    obtain ⟨⟨client', serial⟩, hlookup, rfl⟩ := map_eq_some_iff.mp hstep
    obtain ⟨rfl, rfl⟩ := target_eq hlookup htarget
    exact ⟨frame_destroy client' _, fun _ => ⟨currentConfig_modifyClient client' _, rfl⟩⟩
  | headRequest confHead request =>
    obtain ⟨⟨client', data⟩, hlookup, rfl⟩ := map_eq_some_iff.mp hstep
    cases data with
    | cancelled => simp only [target, hlookup, bind_some, reduceCtorEq] at htarget
    | ok output configuration' =>
      simp only [target, hlookup, bind_some, some.injEq, Prod.mk.injEq] at htarget
      obtain ⟨rfl, rfl⟩ := htarget
      rcases headRequest_spec (s := w.state) client' confHead
          (.ok output configuration') request with
        ⟨hserial, hstate, hconfig, hconf⟩ | ⟨_, _, newConfig, _, _, heq, -, -, -, -, hset⟩
      · exact ⟨⟨hserial, hstate, fun client id _ => hconf client id⟩, fun _ => ⟨hconfig, rfl⟩⟩
      · cases heq
        simp only [hset]
        exact ⟨frame_setConf client' _ _, fun _ => ⟨currentConfig_modifyClient client' _, rfl⟩⟩
  | _ => simp only [target, reduceCtorEq] at htarget

/-- A request of a head that was refused does nothing. -/
theorem headRequest_cancelled {confHead : ℕ} {request : ConfigurationHeadRequest}
    (hlookup : w.confHeads.lookup confHead = some (client, .cancelled)) :
    step w (.headRequest confHead request) = some w := by
  simp only [step, hlookup, map_some, OutputManagementManagerState.headRequest]
  cases w.state.clients.lookup client <;> rfl

/-- **Output configurations.**  The outputs are configured only by a configuration of the current
serial, that was neither applied nor tested under it, with some head enabled, and with one entry for
each head that was enabled or disabled through it, of an output that is there.  A request on a
configuration that is outdated, already used or not known changes neither the outputs nor another
configuration. -/
theorem applies_once (hexec : exec step start es = some w) :
    (∀ e newConfig, w.applies e = some newConfig →
      ∃ id client order, e = .apply id order ∧
        .createConfiguration client id w.state.serial ∈ es ∧
        ¬ Happened step (Uses id) start es ∧
        (∃ o config, newConfig.lookup o = some config ∧ config.off = false ∧
          Happened step (Enables id o) start es) ∧
        (∀ o, o ∈ newConfig ↔ Happened step (Configures id o) start es) ∧
        ∀ o ∈ newConfig, o ∈ w.state.currentState) ∧
    (∀ e w' client configuration, step w e = some w' →
      w.target e = some (client, configuration) → w.IsStale client configuration →
        w'.state.currentState = w.state.currentState ∧
        w'.state.currentConfig = w.state.currentConfig ∧ w.applies e = none ∧
        ∀ client' id', client' ≠ client ∨ id' ≠ configuration.id →
          w'.state.conf client' id' = w.state.conf client' id') ∧
    ∀ confHead request client, w.confHeads.lookup confHead = some (client, .cancelled) →
      step w (.headRequest confHead request) = some w := by
  have htracked : Tracked es w := tracked_exec hexec
  refine ⟨fun e newConfig happlies => ?_, fun e w' client configuration hstep htarget hstale => ?_,
    fun confHead request client hlookup => headRequest_cancelled hlookup⟩
  · cases e with
    | apply id order =>
      obtain ⟨⟨client, serial⟩, hlookup, happly⟩ := bind_eq_some_iff.mp happlies
      obtain ⟨hserial, hconf, henabled⟩ := apply_eq_some happly
      obtain ⟨serial', hlookup', htracks⟩ := htracked.held client id _ hconf
      rw [hlookup, some.injEq, Prod.mk.injEq] at hlookup'
      obtain ⟨-, rfl⟩ := hlookup'
      have h : Tracks es w id serial newConfig := htracks newConfig rfl
      refine ⟨id, client, order, rfl, hserial ▸ htracked.createdBy id client serial hlookup,
        h.unused, ?_, h.mem_iff, fun o ho => ?_⟩
      rotate_left
      · obtain ⟨config, hlookup⟩ := Finmap.mem_iff.mp ho
        obtain ⟨output, houtput, -⟩ := h.known hserial o config hlookup
        exact mem_of_lookup_eq_some houtput
      obtain ⟨o, config, ho, hoff⟩ : ∃ o config, newConfig.lookup o = some config ∧
          config.off = false := by
        by_contra hnone
        push Not at hnone
        refine absurd henabled ?_
        unfold OutputManagementManagerState.anyEnabled
        rw [Bool.not_eq_true', Bool.not_eq_false]
        exact HashMap.all_eq_true.mpr fun o config ho => Bool.not_eq_false _ |>.mp (hnone o config ho)
      exact ⟨o, config, ho, hoff, h.enabled o config ho hoff⟩
    | _ => cases happlies
  · obtain ⟨hframe, hstays⟩ := target_spec hstep htarget
    obtain ⟨hconfig, hnone⟩ := hstays hstale
    exact ⟨hframe.currentState, hconfig, hnone, hframe.conf⟩

theorem no_mode_lt : ∀ i ∈ (none : Option ℕ), i < ([] : List NiriIpc.Mode).length := nofun

/-- An output without modes. -/
def plainOutput : NiriIpc.Output where
  name := "DP-1"
  make := "Unknown"
  model := "Unknown"
  serial := none
  physicalSize := none
  modes := []
  currentMode := none
  vrrEnabled := false
  logical := none
  currentMode_lt := no_mode_lt

/-- A configuration is created with the next serial and tested, and the outputs change. -/
def earlyRun : List (Event Unit Unit) :=
  [.bind () 4 [], .createConfiguration () 0 1, .test 0,
    .notifyChanges (Finmap.singleton () plainOutput) [()] [], .enableHead 0 0 (some ())]

/-- A test under another serial does not use the configuration up. -/
theorem earlyRun_applies : ∃ w newConfig, exec step start earlyRun = some w ∧
    .test 0 ∈ earlyRun ∧ w.applies (.apply 0 [()]) = some newConfig := by
  have hrun : (exec step start earlyRun).any
      (fun w => (w.applies (.apply 0 [()])).isSome) = true := by decide +kernel
  obtain ⟨w, hw, happlies⟩ := (any_eq_true _ _).mp hrun
  obtain ⟨newConfig, happlies⟩ := isSome_iff_exists.mp happlies
  refine ⟨w, newConfig, hw, ?_, happlies⟩
  exact mem_cons_of_mem _ (mem_cons_of_mem _ (mem_cons_self ..))

/-- The configuration of the run is applied under the serial that it was created with. -/
theorem applies_once_earlyRun : ∃ w newConfig, exec step start earlyRun = some w ∧
    w.applies (.apply 0 [()]) = some newConfig ∧ (∀ o ∈ newConfig, o ∈ w.state.currentState) ∧
    .createConfiguration () 0 w.state.serial ∈ earlyRun := by
  have hrun : (exec step start earlyRun).any
      (fun w => (w.applies (.apply 0 [()])).isSome) = true := by decide +kernel
  obtain ⟨w, hw, happlies⟩ := (any_eq_true _ _).mp hrun
  obtain ⟨newConfig, happlies⟩ := isSome_iff_exists.mp happlies
  obtain ⟨id, client, order, heq, hcreated, -, -, -, hknown⟩ :=
    (applies_once hw).1 _ newConfig happlies
  cases heq
  exact ⟨w, newConfig, hw, happlies, hknown, hcreated⟩

end World

end Tiri.Protocols.OutputManagement
