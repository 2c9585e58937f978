import Tiri.Protocols.OutputTransactions

/-!
# The config after an output configuration is applied

`apply_output_config` (`handlers/mod.rs`): the entries that were collected for the heads of a
configuration become the whole `output` section of the config.

Results:
* `Outputs.effective_eq_iff`: when a list of entries sets an output up in a given way;
* `Server.effective_entries`: the entries are for no output that is told apart from the heads;
* `Server.apply_keeps_iff`: along a run, applied configurations leave the other outputs as they
  were configured exactly when the config had nothing set for them, but for outputs that share a
  name with a head.
-/

namespace Tiri.NiriConfig

open Bool

/-- The settings of an entry, without the name that it is found by. -/
def Output.settings (output : Output) : Output := { output with name := "" }

/-- The settings of `Output::default`. -/
def Output.unset : Output := Output.named ""

/-- How the output of the name is configured: `find(name)`, and the defaults without an entry. -/
def Outputs.effective (outputs : Outputs) (name : OutputName) : Output :=
  ((outputs.find name).map Output.settings).getD Output.unset

/-- The entries set the output of the name up like this: the first one that is for it does, or
none is for it and these are the defaults. -/
def Outputs.SetsUp (entries : Outputs) (name : OutputName) (settings : Output) : Prop :=
  (∃ before entry after, entries = before ++ entry :: after ∧ entry.settings = settings ∧
    name.matchesTarget entry.name = true ∧ ∀ e ∈ before, name.matchesTarget e.name = false) ∨
  (∀ entry ∈ entries, name.matchesTarget entry.name = false) ∧ settings = Output.unset

theorem Outputs.effective_eq_iff (entries : Outputs) (name : OutputName) (settings : Output) :
    entries.effective name = settings ↔ entries.SetsUp name settings := by
  unfold Outputs.effective
  cases hfind : entries.find name with
  | none =>
    have hnone : ∀ entry ∈ entries, name.matchesTarget entry.name = false := fun entry hentry =>
      eq_false_iff.mpr (List.find?_eq_none.mp hfind entry hentry)
    constructor
    · intro h
      exact .inr ⟨hnone, h.symm⟩
    · rintro (⟨before, entry, after, rfl, -, hmatches, -⟩ | ⟨-, h⟩)
      · have hfalse := hnone entry (List.mem_append_right before List.mem_cons_self)
        exact (false_ne_true (hfalse.symm.trans hmatches)).elim
      · exact h.symm
  | some entry =>
    obtain ⟨hmatches, before, after, hentries, hbefore⟩ :=
      List.find?_eq_some_iff_append.mp hfind
    rw [Option.map_some, Option.getD_some]
    constructor
    · intro h
      refine .inl ⟨before, entry, after, hentries, h, hmatches, fun e he => ?_⟩
      exact not_eq_true' _ ▸ hbefore e he
    · rintro (⟨before', entry', after', hentries', h, hmatches', hbefore'⟩ | ⟨hnone, -⟩)
      · have hfind' : entries.find name = some entry' :=
          List.find?_eq_some_iff_append.mpr
            ⟨hmatches', before', after', hentries', fun e he => by rw [hbefore' e he]; rfl⟩
        rw [Option.some.inj (hfind.symm.trans hfind'), h]
      · have hfalse := hnone entry (List.mem_of_find?_eq_some hfind)
        exact (false_ne_true (hfalse.symm.trans hmatches)).elim

/-- No text names both outputs.  The TTY backend sees to it for outputs that are connected. -/
def OutputName.Apart (a b : OutputName) : Prop :=
  ∀ target, a.matchesTarget target = true → b.matchesTarget target = false

theorem OutputName.apart_of_missing {a b : OutputName} (ha : a.isMissing = true)
    (hb : b.isMissing = true)
    (h : eqIgnoreAsciiCase a.connector.toList b.connector.toList = false) : a.Apart b := by
  intro target hmatches
  have hconnector {name : OutputName} (hmissing : name.isMissing = true)
      (hmatches : name.matchesTarget target = true) :
      target.toList.map Char.toLower = name.connector.toList.map Char.toLower := by
    rcases matchesTarget_iff.mp hmatches with h | ⟨hnot, -⟩
    · exact eqIgnoreAsciiCase_iff.mp h
    · exact (false_ne_true (hnot.symm.trans hmissing)).elim
  refine eq_false_iff.mpr fun hmatches' => eq_false_iff.mp h (eqIgnoreAsciiCase_iff.mpr ?_)
  exact (hconnector ha hmatches).symm.trans (hconnector hb hmatches')

end Tiri.NiriConfig

namespace Tiri.Protocols.OutputManagement

open NiriConfig (OutputName Outputs)

variable {OutputId ClientId : Type} [DecidableEq OutputId] [DecidableEq ClientId]

/-- The protocol, with the `output` section of the config. -/
structure Server (OutputId ClientId : Type) where
  world : World OutputId ClientId
  outputs : Outputs

namespace Server

/-- The config that the compositor starts with. -/
def start (config : Outputs) : Server OutputId ClientId where
  world := { World.start with state := World.start.state.onConfigChanged config }
  outputs := config

variable (s : Server OutputId ClientId)

/-- The entries of the configuration that the event applies. -/
def entries : Event OutputId ClientId → Option Outputs
  | .apply id order => (s.world.applies (.apply id order)).map fun newConfig =>
    HashMap.values newConfig order
  | _ => none

/-- The outputs of the heads of the configuration that the event applies. -/
def heads : Event OutputId ClientId → List OutputId
  | .apply _ order => order
  | _ => []

/-- An output that is not one of the heads: it is connected, or told apart from all that are. -/
def IsOther (event : Event OutputId ClientId) (name : OutputName) : Prop :=
  (∃ output c, s.world.state.currentState.lookup output = some c ∧ output ∉ heads event ∧
    name = OutputName.fromIpcOutput c) ∨
  ∀ output c, s.world.state.currentState.lookup output = some c →
    name.Apart (OutputName.fromIpcOutput c)

/-- No text names it and a head. -/
def ApartFromHeads (event : Event OutputId ClientId) (name : OutputName) : Prop :=
  ∀ output ∈ heads event, ∀ c, s.world.state.currentState.lookup output = some c →
    name.Apart (OutputName.fromIpcOutput c)

/-- The order of an event lists the heads of the configuration that it applies. -/
def OrderLists : Event OutputId ClientId → Prop
  | .apply id order =>
    ∀ newConfig ∈ s.world.applies (.apply id order), HashMap.Lists order newConfig
  | _ => True

instance (s : Server OutputId ClientId) (event : Event OutputId ClientId) :
    Decidable (s.OrderLists event) :=
  match event with
  | .apply id order => inferInstanceAs (Decidable (∀ newConfig ∈ s.world.applies (.apply id order),
      HashMap.Lists order newConfig))
  | .notifyChanges .. | .onConfigChanged .. | .bind .. | .removeClient .. | .destroyHead ..
  | .createConfiguration .. | .enableHead .. | .disableHead .. | .test .. | .destroy ..
  | .headRequest .. => isTrue trivial

/-- `apply_output_config`, and `reload_config`, which tells the protocol what it has read. -/
def outputsAfter (event : Event OutputId ClientId) : Outputs :=
  match s.entries event, event with
  | some entries, _ => entries
  | none, .onConfigChanged newConfig => newConfig
  | none, _ => s.outputs

/-- What an event does, where it can happen. -/
def step (event : Event OutputId ClientId) : Option (Server OutputId ClientId) :=
  if s.OrderLists event then
    (s.world.step event).map fun world => { world, outputs := s.outputsAfter event }
  else none

/-- Where a configuration is applied, every output that is not one of its heads is configured as it
was. -/
def Keeps (event : Event OutputId ClientId) : Prop :=
  ∀ s' ∈ s.step event, (s.entries event).isSome → ∀ name, s.IsOther event name →
    s'.outputs.effective name = s.outputs.effective name

/-- Where a configuration is applied, the config has nothing set for an output that is not one of
the heads.  One that shares a name with a head is set up by the entries of the heads as by the
config. -/
def Carries (event : Event OutputId ClientId) : Prop :=
  ∀ entries ∈ s.entries event, ∀ name, s.IsOther event name →
    (s.ApartFromHeads event name → s.outputs.effective name = NiriConfig.Output.unset) ∧
    (¬s.ApartFromHeads event name → entries.SetsUp name (s.outputs.effective name))

variable {s : Server OutputId ClientId} {event : Event OutputId ClientId}

variable {s' : Server OutputId ClientId}

/-- The protocol is in a state that a run of it reaches. -/
def Reached (s : Server OutputId ClientId) : Prop :=
  ∃ events, Run.exec World.step World.start events = some s.world

theorem reached_start (config : Outputs) : Reached (start config : Server OutputId ClientId) :=
  ⟨[.onConfigChanged config], rfl⟩

theorem Reached.step (h : s.Reached) (hstep : s.step event = some s') : s'.Reached := by
  obtain ⟨events, hrun⟩ := h
  unfold Server.step at hstep
  split at hstep
  · obtain ⟨world, hworld, rfl⟩ := Option.map_eq_some_iff.mp hstep
    exact ⟨events ++ [event], Run.exec_concat_eq_some.mpr ⟨s.world, hrun, hworld⟩⟩
  · cases hstep

/-- **The entries of the heads** are for their outputs. -/
theorem effective_entries {entries : Outputs} {name : OutputName} (h : s.Reached)
    (hentries : s.entries event = some entries) (hapart : s.ApartFromHeads event name) :
    entries.effective name = NiriConfig.Output.unset := by
  obtain ⟨events, hrun⟩ := h
  cases event with
  | apply id order =>
    obtain ⟨newConfig, happlies, rfl⟩ := Option.map_eq_some_iff.mp hentries
    obtain ⟨⟨client, serial⟩, hlookup, happly⟩ := Option.bind_eq_some_iff.mp happlies
    obtain ⟨hserial, hconf, -⟩ := OutputManagementManagerState.apply_eq_some happly
    obtain ⟨serial', hlookup', htracks⟩ := (World.tracked_exec hrun).held client id _ hconf
    cases hlookup.symm.trans hlookup'
    have hnone : Outputs.find (HashMap.values newConfig order) name = none := by
      refine List.find?_eq_none.mpr fun entry hentry hmatches => ?_
      obtain ⟨output, houtput, hentry⟩ := List.mem_filterMap.mp hentry
      obtain ⟨c, hc, hhead⟩ := (htracks newConfig rfl).known hserial output entry hentry
      exact absurd hhead (Bool.eq_false_iff.mp (hapart output houtput c hc entry.name hmatches))
    rw [Outputs.effective, hnone]
    rfl
  | _ => cases hentries

theorem outputs_step (h : s.step event = some s') : s'.outputs = s.outputsAfter event := by
  unfold step at h
  split at h
  · obtain ⟨world, -, rfl⟩ := Option.map_eq_some_iff.mp h
    rfl
  · cases h

theorem outputsAfter_of_entries {entries : Outputs} (h : s.entries event = some entries) :
    s.outputsAfter event = entries := by
  unfold outputsAfter
  rw [h]

/-- One step. -/
theorem keeps_iff (hreached : s.Reached) (h : s.step event = some s') :
    s.Keeps event ↔ s.Carries event := by
  cases hentries : s.entries event with
  | none =>
    constructor
    · intro _ entries hsome
      rw [hentries] at hsome
      cases hsome
    · intro _ s'' _ hsome
      rw [hentries] at hsome
      cases hsome
  | some entries =>
    have houtputs : s'.outputs = entries :=
      (outputs_step h).trans (outputsAfter_of_entries hentries)
    have hname (name : OutputName) :
        entries.effective name = s.outputs.effective name ↔
          (s.ApartFromHeads event name → s.outputs.effective name = NiriConfig.Output.unset) ∧
          (¬s.ApartFromHeads event name → entries.SetsUp name (s.outputs.effective name)) := by
      by_cases hapart : s.ApartFromHeads event name
      · rw [effective_entries hreached hentries hapart, eq_comm]
        exact ⟨fun h => ⟨fun _ => h, absurd hapart⟩, fun h => h.1 hapart⟩
      · rw [Outputs.effective_eq_iff]
        exact ⟨fun h => ⟨(absurd · hapart), fun _ => h⟩, fun h => h.2 hapart⟩
    constructor
    · intro hkeeps entries' hsome name hother
      cases hentries.symm.trans hsome
      exact (hname name).mp (houtputs ▸ hkeeps s' h (hentries ▸ rfl) name hother)
    · intro hcarries s'' hs'' _ name hother
      cases h.symm.trans hs''
      rw [houtputs]
      exact (hname name).mpr (hcarries entries hentries name hother)

/-- **The other outputs** are configured as they were, all along a run, exactly when the config has
nothing set for them at every configuration that is applied, or, of those that share a name with a
head, the entries set them up as the config did. -/
theorem apply_keeps_iff (config : Outputs) (events : List (Event OutputId ClientId)) :
    Run.Along step Keeps (start config) events ↔ Run.Along step Carries (start config) events :=
  Run.along_congr (J := Reached) (fun _ _ _ h hstep => h.step hstep)
    (fun _ _ _ h hstep => keeps_iff h hstep) (reached_start config)

/-- The config has a scale for a monitor that is not connected. -/
def dockConfig : Outputs := [{ NiriConfig.Output.named "HDMI-A-1" with scale := some 2 }]

/-- Another monitor is connected, and a client enables it. -/
def enableRun : List (Event ℕ ℕ) :=
  [.notifyChanges (Finmap.singleton 0 World.plainOutput) [0] [], .bind 0 4 [0],
    .createConfiguration 0 0 1, .enableHead 0 0 (some 0)]

/-- The server before the configuration is applied. -/
def enabled : Server ℕ ℕ := (Run.exec step (start dockConfig) enableRun).get (by decide +kernel)

/-- The scale of the other one is lost. -/
theorem enableRun_not_keeps :
    ¬Run.Along step Keeps (start dockConfig) (enableRun ++ [.apply 0 [0]]) := by
  intro h
  have hkeeps := (h.drop (Option.some_get _).symm : Run.Along step Keeps enabled _)
  have hstate : enabled.world.state.currentState = Finmap.singleton 0 World.plainOutput := by
    decide +kernel
  have hother : enabled.IsOther (.apply 0 [0]) ⟨"HDMI-A-1", none, none, none⟩ := by
    refine .inr fun output c hlookup => ?_
    rw [hstate] at hlookup
    obtain rfl : c = World.plainOutput := by
      have hmem := (Finmap.mem_singleton ..).mp (Finmap.mem_of_lookup_eq_some hlookup)
      rw [hmem, Finmap.lookup_singleton_eq, Option.some.injEq] at hlookup
      exact hlookup.symm
    exact OutputName.apart_of_missing rfl rfl (by decide +kernel)
  have hlost : ∃ s' ∈ enabled.step (.apply 0 [0]), s'.outputs.effective
      ⟨"HDMI-A-1", none, none, none⟩ ≠ dockConfig.effective ⟨"HDMI-A-1", none, none, none⟩ := by
    decide +kernel
  obtain ⟨s', hs', hne⟩ := hlost
  exact hne ((hkeeps s' hs').1 s' hs' (by decide +kernel) _ hother)

end Server

end Tiri.Protocols.OutputManagement
