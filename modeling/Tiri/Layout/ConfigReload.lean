import Tiri.Layout.OtherWorkspaces
import Tiri.Lib.Returns

set_option linter.dupNamespace false

/-!
# The config is reloaded

Workspaces that the config names may override its layout options.  On a reload, those that are no
longer in the config lose their names, the others take over their overrides by the name, and new ones
are created.

Results:
* `Passes`: what becomes of the names and the overrides of workspaces;
* `reloadConfig_passes`: what a reload does to them;
* `overrides_reconciled`: when the overrides are those of the new config afterwards;
* `reloadConfig_stale`: a workspace that lost its name keeps its override.
-/

namespace Tiri.Layout

open Option List Bool Nat Ensures Vec Workspace
open YieldsFrom hiding of_pure

variable {Id : Type}

/-! ## Workspaces, as the config sees them -/

/-- The override of the first entry that has the name, as `ensure_named_workspace` compares names. -/
def Config.overrideFor (config : Config) (name : Option String) : Option LayoutPart :=
  name.bind fun name =>
    (config.workspaces.find? fun wsConfig => eqIgnoreAsciiCase name wsConfig.name).bind (·.layout)

/-- The same name, the same override, and windows or none, as before. -/
structure Workspace.Like (ws ws' : Workspace Id) : Prop where
  id : ws'.id = ws.id
  name : ws'.name = ws.name
  layoutConfig : ws'.layoutConfig = ws.layoutConfig
  windows : ws'.hasWindows = ws.hasWindows

/-- A new workspace, when the ids below `n` are taken: with the override that is for it. -/
structure Workspace.IsNew (config : Config) (n : WorkspaceId) (ws : Workspace Id) : Prop where
  fresh : n ≤ ws.id
  layoutConfig : ws.layoutConfig = config.overrideFor ws.name

/-- **Workspaces pass through**: those that are used are still there, and the others come from
    somewhere, or are new. -/
structure Passes (config : Config) (n : WorkspaceId) (old new : List (Workspace Id)) : Prop where
  source : ∀ ws' ∈ new, ws'.IsNew config n ∨ ∃ ws ∈ old, ws.Like ws'
  kept : ∀ ws ∈ old, ws.hasWindowsOrName = true → ∃ ws' ∈ new, ws.Like ws'

namespace Workspace

theorem Like.refl (ws : Workspace Id) : ws.Like ws := ⟨rfl, rfl, rfl, rfl⟩

variable {ws ws' : Workspace Id}

theorem Like.trans {ws'' : Workspace Id} (h : ws.Like ws') (h' : ws'.Like ws'') : ws.Like ws'' :=
  ⟨h'.id.trans h.id, h'.name.trans h.name, h'.layoutConfig.trans h.layoutConfig,
    h'.windows.trans h.windows⟩

theorem Like.used (h : ws.Like ws') : ws'.hasWindowsOrName = ws.hasWindowsOrName := by
  rw [hasWindowsOrName, hasWindowsOrName, h.windows, h.name]

theorem Like.isNew {config : Config} {n : WorkspaceId} (h : ws.Like ws') (hnew : ws.IsNew config n) :
    ws'.IsNew config n :=
  ⟨hnew.fresh.trans h.id.ge, by rw [h.layoutConfig, h.name, hnew.layoutConfig]⟩

theorem Frame.hasWindows (h : ws.Frame ws') : ws'.hasWindows = ws.hasWindows := by
  rw [hasWindows_eq, hasWindows_eq, h.ids.isEmpty_eq]

theorem updateConfig_layoutConfig (ws : Workspace Id) (baseOptions : Options) :
    Ensures (ws.updateConfig baseOptions) fun ws' => ws'.layoutConfig = ws.layoutConfig := by
  refine Ensures.bind (P := fun ws' => ws'.layoutConfig = ws.layoutConfig) ?_
    fun ws' h => of_pure h
  exact Ensures.self.bind fun _ _ => of_pure rfl

theorem updateConfig_like (h : ws.Inv) (baseOptions : Options) :
    Ensures (ws.updateConfig baseOptions) fun ws' => ws'.Inv ∧ ws.Like ws' :=
  ((updateConfig_lays baseOptions ws h).and (updateConfig_layoutConfig ws baseOptions)).mono
    fun _ h' => ⟨h'.1.1, h'.1.2.id, h'.1.2.name, h'.2, h'.1.2.frame.hasWindows⟩

theorem setViewSize_layoutConfig (ws : Workspace Id) (geometry : OutputGeometry) :
    Ensures (ws.setViewSize geometry) fun ws' => ws'.layoutConfig = ws.layoutConfig := by
  refine Ensures.ite (fun _ => of_some rfl) fun _ => Ensures.ite (fun _ => ?_) fun _ => ?_
  · exact updateConfig_layoutConfig _ _
  · exact Ensures.self.bind fun _ _ => of_pure rfl

theorem setOutput_layoutConfig (ws : Workspace Id) (geometry : Output → OutputGeometry)
    (output : Option Output) :
    Ensures (ws.setOutput geometry output) fun ws' => ws'.layoutConfig = ws.layoutConfig := by
  refine Ensures.ite (fun _ => of_some rfl) fun _ => ?_
  cases output with
  | none => exact of_some rfl
  | some output => exact Ensures.self.bind fun _ _ => setViewSize_layoutConfig _ _

end Workspace

namespace Passes

variable {config : Config} {n n' : WorkspaceId} {l l' l'' : List (Workspace Id)}

theorem refl (config : Config) (n : WorkspaceId) (l : List (Workspace Id)) : Passes config n l l :=
  ⟨fun ws h => .inr ⟨ws, h, .refl ws⟩, fun ws h _ => ⟨ws, h, .refl ws⟩⟩

theorem mono (h : Passes config n' l l') (hle : n ≤ n') : Passes config n l l' :=
  ⟨fun ws hws => (h.source ws hws).imp_left fun hnew => ⟨hle.trans hnew.fresh, hnew.layoutConfig⟩,
    h.kept⟩

theorem trans (h : Passes config n l l') (h' : Passes config n l' l'') : Passes config n l l'' := by
  refine ⟨fun ws'' hws'' => ?_, fun ws hws hused => ?_⟩
  · rcases h'.source ws'' hws'' with hnew | ⟨ws', hws', hlike⟩
    · exact .inl hnew
    rcases h.source ws' hws' with hnew | ⟨ws, hws, hlike'⟩
    · exact .inl (hlike.isNew hnew)
    · exact .inr ⟨ws, hws, hlike'.trans hlike⟩
  · obtain ⟨ws', hws', hlike⟩ := h.kept ws hws hused
    obtain ⟨ws'', hws'', hlike'⟩ := h'.kept ws' hws' (hlike.used.trans hused)
    exact ⟨ws'', hws'', hlike.trans hlike'⟩

/-- Workspaces that are not used go. -/
theorem of_pruned (config : Config) (n : WorkspaceId) (h : Pruned l l') : Passes config n l l' :=
  ⟨fun ws hws => .inr ⟨ws, h.sublist.subset hws, .refl ws⟩,
    fun ws hws hused => ⟨ws, h.used ws hws hused, .refl ws⟩⟩

/-- Each workspace stays the same to the config. -/
theorem of_forall₂ (config : Config) (n : WorkspaceId) (h : List.Forall₂ Workspace.Like l l') :
    Passes config n l l' := by
  induction h with
  | nil => exact refl config n []
  | @cons ws ws' l l' hlike _ ih =>
    refine ⟨fun w hw => ?_, fun w hw hused => ?_⟩
    · rcases mem_cons.mp hw with rfl | hw
      · exact .inr ⟨ws, mem_cons_self, hlike⟩
      · exact (ih.source w hw).imp_right fun ⟨v, hv, h⟩ => ⟨v, mem_cons_of_mem _ hv, h⟩
    · rcases mem_cons.mp hw with rfl | hw
      · exact ⟨ws', mem_cons_self, hlike⟩
      · obtain ⟨v, hv, h⟩ := ih.kept w hw hused
        exact ⟨v, mem_cons_of_mem _ hv, h⟩

theorem append {r r' : List (Workspace Id)} (h : Passes config n l l') (h' : Passes config n r r') :
    Passes config n (l ++ r) (l' ++ r') := by
  refine ⟨fun ws hws => ?_, fun ws hws hused => ?_⟩
  · rcases mem_append.mp hws with hws | hws
    · exact (h.source ws hws).imp_right fun ⟨v, hv, h⟩ => ⟨v, mem_append_left _ hv, h⟩
    · exact (h'.source ws hws).imp_right fun ⟨v, hv, h⟩ => ⟨v, mem_append_right _ hv, h⟩
  · rcases mem_append.mp hws with hws | hws
    · obtain ⟨v, hv, h⟩ := h.kept ws hws hused
      exact ⟨v, mem_append_left _ hv, h⟩
    · obtain ⟨v, hv, h⟩ := h'.kept ws hws hused
      exact ⟨v, mem_append_right _ hv, h⟩

/-- Monitor by monitor. -/
theorem flatMap {monitors monitors' : List (Monitor Id)}
    (h : List.Forall₂ (fun mon mon' => Passes config n mon.workspaces mon'.workspaces) monitors monitors') :
    Passes config n (monitors.flatMap Monitor.workspaces) (monitors'.flatMap Monitor.workspaces) := by
  induction h with
  | nil => exact refl config n []
  | cons hmon _ ih =>
    exact hmon.append ih

/-- A new workspace comes in. -/
theorem insert {i : ℕ} {ws : Workspace Id} (hnew : ws.IsNew config n) (h : Vec.insertAt l i ws = some l') :
    Passes config n l l' := by
  have hperm := insertAt_perm h
  refine ⟨fun w hw => ?_, fun w hw _ => ⟨w, hperm.mem_iff.mpr (mem_cons_of_mem _ hw), .refl w⟩⟩
  rcases mem_cons.mp (hperm.mem_iff.mp hw) with rfl | hw
  · exact .inl hnew
  · exact .inr ⟨w, hw, .refl w⟩

end Passes

/-! ## Clean-up -/

namespace Monitor

/-- The first workspace is spare, where there is to be a spare one above the first. -/
def SpareFirst (mon : Monitor Id) : Prop :=
  mon.emptyAboveFirst = true → ∀ ws ∈ mon.workspaces.head?, ws.hasWindowsOrName = false

variable {old mon mon' : Monitor Id}

theorem Trimmed.spareFirst (h : old.Trimmed mon) (hspare : old.SpareFirst) : mon.SpareFirst := by
  intro habove ws hws
  rw [h.emptyAboveFirst] at habove
  rw [h.head habove] at hws
  exact hspare habove ws hws

theorem cleanUpIfIdle_trimmed (mon : Monitor Id) : Ensures mon.cleanUpIfIdle mon.Trimmed :=
  Ensures.ite (fun _ => cleanUpWorkspaces_trimmed mon) fun _ => of_some (.refl mon)

theorem stopSwitchAndCleanUp_trimmed (mon : Monitor Id) :
    Ensures mon.stopSwitchAndCleanUp mon.Trimmed :=
  (cleanUpWorkspaces_trimmed { mon with workspaceSwitch := none }).mono
    fun _ h => ⟨h.workspaces, h.output, h.options, h.head⟩

end Monitor

/-! ## Names are dropped -/

namespace Workspace

variable {name other : String} {names : List String} {ws : Workspace Id}

/-- Without the name, if it is this one. -/
def dropName (name : String) (ws : Workspace Id) : Workspace Id :=
  if ws.isNamed name then ws.unname else ws

/-- Without its name, if that is one of these. -/
def dropNames (names : List String) (ws : Workspace Id) : Workspace Id :=
  if names.any (ws.isNamed ·) then ws.unname else ws

@[simp] theorem dropName_id : (ws.dropName name).id = ws.id := by
  unfold dropName
  split_ifs <;> rfl

theorem dropName_of_not (h : ws.isNamed name = false) : ws.dropName name = ws :=
  if_neg (by rw [h]; exact Bool.false_ne_true)

theorem dropName_isNamed (h : (ws.dropName name).isNamed other = true) : ws.isNamed other = true := by
  unfold dropName at h
  split_ifs at h
  · cases h
  · exact h

theorem dropName_used (h : (ws.dropName name).hasWindowsOrName = true) :
    ws.hasWindowsOrName = true := by
  unfold dropName at h
  split_ifs at h
  · have hwindows : ws.hasWindows = true := (Bool.or_false ws.hasWindows).symm.trans h
    rw [hasWindowsOrName, hwindows, Bool.true_or]
  · exact h

theorem dropName_inv (h : ws.Inv) : (ws.dropName name).Inv := by
  unfold dropName
  split_ifs
  · exact ⟨h.scrolling, h.floating, h.nodup⟩
  · exact h

theorem dropNames_cons : ws.dropNames (name :: names) = (ws.dropName name).dropNames names := by
  unfold dropNames dropName
  by_cases h : ws.isNamed name = true
  · have hnone : (names.any fun name => ws.unname.isNamed name) = false := by
      simp [isNamed, unname]
    rw [any_cons, h, if_pos rfl, hnone]
    rfl
  · have hnot : ws.isNamed name = false := by simpa using h
    rw [any_cons, hnot, if_neg Bool.false_ne_true, Bool.false_or]

@[simp] theorem dropNames_id : (ws.dropNames names).id = ws.id := by
  unfold dropNames
  split_ifs <;> rfl

@[simp] theorem dropNames_layoutConfig : (ws.dropNames names).layoutConfig = ws.layoutConfig := by
  unfold dropNames
  split_ifs <;> rfl

@[simp] theorem dropNames_hasWindows : (ws.dropNames names).hasWindows = ws.hasWindows := by
  unfold dropNames
  split_ifs <;> rfl

theorem dropNames_used (h : (ws.dropNames names).hasWindowsOrName = true) :
    ws.hasWindowsOrName = true := by
  induction names generalizing ws with
  | nil => exact h
  | cons name names ih =>
    rw [dropNames_cons] at h
    exact dropName_used (ih h)

theorem map_dropName_of_not {l : List (Workspace Id)} (h : ∀ ws ∈ l, ws.isNamed name = false) :
    l.map (dropName name) = l := by
  calc l.map (dropName name) = l.map fun ws => ws := map_congr_left fun ws hws => dropName_of_not (h ws hws)
    _ = l := List.map_id' l

/-- Only the workspace with this id has the name. -/
theorem map_dropName_of_id {front rest : List (Workspace Id)} {id : WorkspaceId}
    (hids : ((front ++ ws :: rest).map (·.id)).Nodup)
    (hname : ∀ w ∈ front ++ ws :: rest, w.isNamed name = true ↔ w.id = id) (hid : ws.id = id) :
    (front ++ ws :: rest).map (dropName name) = front ++ ws.unname :: rest := by
  rw [map_append, map_cons] at hids
  have hfresh := (nodup_cons.mp (nodup_middle.mp hids)).1
  rw [← map_append] at hfresh
  have hnot : ∀ w ∈ front ++ rest, w.isNamed name = false := by
    intro w hw
    have hmem := ((sublist_cons_self ws rest).append_left front).subset hw
    have hne : ¬ w.id = id := fun hsame =>
      hfresh (hid.trans hsame.symm ▸ mem_map_of_mem hw)
    simpa using mt (hname w hmem).mp hne
  have hnamed : ws.isNamed name = true := (hname ws (by simp)).mpr hid
  rw [map_append, map_cons, map_dropName_of_not fun w hw => hnot w (mem_append_left _ hw),
    map_dropName_of_not fun w hw => hnot w (mem_append_right _ hw)]
  exact congrArg (front ++ · :: rest) (if_pos hnamed)

end Workspace

namespace Monitor

/-- The workspace with the name loses it, and may go then. -/
theorem unnameWorkspace_trimmed {mon : Monitor Id} {name : String} {id : WorkspaceId}
    (hids : (mon.workspaces.map (·.id)).Nodup)
    (hname : ∀ ws ∈ mon.workspaces, ws.isNamed name = true ↔ ws.id = id) :
    Ensures (mon.unnameWorkspace id) fun p =>
      ({ mon with workspaces := mon.workspaces.map (Workspace.dropName name) } :
        Monitor Id).Trimmed p.1 := by
  unfold unnameWorkspace
  split
  · rename_i hnone
    refine of_some ?_
    have hnot : ∀ ws ∈ mon.workspaces, ws.isNamed name = false := by
      intro ws hws
      have hne : ¬ ws.id = id := by simpa using List.findIdx?_eq_none_iff.mp hnone ws hws
      simpa using mt (hname ws hws).mp hne
    rw [map_dropName_of_not hnot]
    exact .refl mon
  · rename_i idx hidx
    refine Ensures.self.bind fun mon₁ h₁ => (cleanUpIfIdle_trimmed mon₁).bind fun mon₂ h₂ =>
      of_pure ?_
    obtain ⟨workspaces, hmodify, hmon₁⟩ := bind_eq_some_iff.mp h₁
    cases hmon₁
    obtain ⟨front, ws, ws', rest, hl, rfl, hws', rfl⟩ := modifyAt_eq_some.mp hmodify
    cases hws'
    have hid : ws.id = id := by
      have := List.findIdx?_eq_some_iff_getElem.mp hidx
      simpa [hl] using this.2.1
    have hmap : mon.workspaces.map (Workspace.dropName name) = front ++ ws.unname :: rest := by
      rw [hl] at hids hname ⊢
      exact map_dropName_of_id hids hname hid
    rw [hmap]
    exact h₂

end Monitor

/-- What keeps the names in order: no two workspaces share an id or a name, and the spare ones are
    where they are to be. -/
structure Layout.Orderly (layout : Layout Id) : Prop where
  ids : (layout.workspaces.map (·.id)).Nodup
  apart : ∀ ws ∈ layout.workspaces, ∀ ws' ∈ layout.workspaces, ∀ name,
    ws.isNamed name = true → ws'.isNamed name = true → ws.id = ws'.id
  inv : ∀ ws ∈ layout.workspaces, ws.Inv
  spare : ∀ mon ∈ layout.monitorSet.monitors, mon.SpareFirst

namespace Layout

variable {layout layout' : Layout Id} {name : String}

/-- Orderly layouts stay so when names are dropped, and workspaces that are not used go. -/
theorem Orderly.pruned (h : layout.Orderly)
    (hpruned : Pruned (layout.workspaces.map (Workspace.dropName name)) layout'.workspaces)
    (hspare : ∀ mon ∈ layout'.monitorSet.monitors, mon.SpareFirst) : layout'.Orderly := by
  have hsource : ∀ ws' ∈ layout'.workspaces, ∃ ws ∈ layout.workspaces, ws.dropName name = ws' :=
    fun ws' hws' => mem_map.mp (hpruned.sublist.subset hws')
  refine ⟨?_, fun ws₁ h₁ ws₂ h₂ other hnamed₁ hnamed₂ => ?_, fun ws' hws' => ?_, hspare⟩
  · refine List.Nodup.sublist (hpruned.sublist.map _) ?_
    simpa [Function.comp_def] using h.ids
  · obtain ⟨ws, hws, rfl⟩ := hsource ws₁ h₁
    obtain ⟨ws', hws', rfl⟩ := hsource ws₂ h₂
    rw [dropName_id, dropName_id]
    exact h.apart ws hws ws' hws' other (dropName_isNamed hnamed₁)
      (dropName_isNamed hnamed₂)
  · obtain ⟨ws, hws, rfl⟩ := hsource ws' hws'
    exact dropName_inv (h.inv ws hws)

/-- Nothing has the name. -/
theorem Orderly.unnamed (h : layout.Orderly)
    (hnot : ∀ ws ∈ layout.workspaces, ws.isNamed name = false) :
    layout.Orderly ∧ Pruned (layout.workspaces.map (Workspace.dropName name)) layout.workspaces := by
  rw [map_dropName_of_not hnot]
  exact ⟨h, .refl _⟩

variable (geometry : Output → OutputGeometry) (n : WorkspaceId)

theorem unnameWorkspaceById_drops {id : WorkspaceId} (h : layout.Orderly)
    (hname : ∀ ws ∈ layout.workspaces, ws.isNamed name = true ↔ ws.id = id) :
    YieldsFrom geometry n (layout.unnameWorkspaceById id) fun layout' n' => n' = n ∧
      layout'.Orderly ∧
        Pruned (layout.workspaces.map (Workspace.dropName name)) layout'.workspaces := by
  have hother : ∀ ws ∈ layout.workspaces, ws.id ≠ id → ws.isNamed name = false := by
    intro ws hws hne
    simpa using mt (hname ws hws).mp hne
  have hids := h.ids
  unfold unnameWorkspaceById
  cases hset : layout.monitorSet with
  | normal monitors primaryIdx activeIdx =>
    have hl : layout.workspaces = monitors.flatMap Monitor.workspaces := by
      rw [workspaces, hset]
      rfl
    rw [hl] at hname hother hids
    dsimp only
    split
    · rename_i hnone
      refine YieldsFrom.of_pure ⟨rfl, h.unnamed fun ws hws => hother ws (hl ▸ hws) fun hid => ?_⟩
      rw [hl] at hws
      obtain ⟨mon, hmon, hws⟩ := mem_flatMap.mp hws
      have hany := any_eq_false.mp (List.findIdx?_eq_none_iff.mp hnone mon hmon) ws hws
      exact hany (by simpa using hid)
    · rename_i monIdx hidx
      refine lift_bind Ensures.self fun mon hget => ?_
      obtain ⟨front, rest, rfl, rfl⟩ := Vec.getElem?_eq_some_split.mp hget
      obtain ⟨ws, hws, hid⟩ : ∃ ws ∈ mon.workspaces, ws.id = id := by
        have := (List.findIdx?_eq_some_iff_getElem.mp hidx).2.1
        simpa using this
      rw [flatMap_append, flatMap_cons] at hname hother hids
      -- The other monitors have no workspace with the id.
      rw [map_append, map_append, nodup_append, nodup_append] at hids
      obtain ⟨-, ⟨hmonIds, -, hrestIds⟩, hfrontIds⟩ := hids
      have hfront : ∀ w ∈ front.flatMap Monitor.workspaces, w.isNamed name = false := by
        refine fun w hw => hother w (by simp [hw]) fun hsame => ?_
        exact hfrontIds w.id (mem_map_of_mem hw) ws.id
          (mem_append_left _ (mem_map_of_mem hws)) (hsame.trans hid.symm)
      have hrest : ∀ w ∈ rest.flatMap Monitor.workspaces, w.isNamed name = false := by
        refine fun w hw => hother w (by simp [hw]) fun hsame => ?_
        exact hrestIds ws.id (mem_map_of_mem hws) w.id (mem_map_of_mem hw)
          (hid.trans hsame.symm)
      refine lift_bind (Monitor.unnameWorkspace_trimmed hmonIds
        fun w hw => hname w (by simp [hw])) fun p hp => YieldsFrom.of_pure ⟨rfl, ?_⟩
      have hpruned : Pruned (layout.workspaces.map (Workspace.dropName name))
          ((front ++ p.1 :: rest).flatMap Monitor.workspaces) := by
        rw [hl, flatMap_append, flatMap_cons, flatMap_append, flatMap_cons,
          map_append, map_append, map_dropName_of_not hfront,
          map_dropName_of_not hrest]
        exact (Pruned.refl _).append (hp.workspaces.append (.refl _))
      rw [set_append_length]
      refine ⟨h.pruned hpruned fun mon' hmon' => ?_, hpruned⟩
      have hspare : ∀ m ∈ front ++ mon :: rest, m.SpareFirst := by
        have hall := h.spare
        rw [hset] at hall
        exact hall
      rcases mem_append.mp hmon' with hmem | hmem
      · exact hspare mon' (mem_append_left _ hmem)
      · rcases mem_cons.mp hmem with rfl | hmem
        · refine hp.spareFirst fun habove w hw => ?_
          rw [List.head?_map] at hw
          obtain ⟨first, hfirst, rfl⟩ := map_eq_some_iff.mp hw
          have hunused := hspare mon (by simp) habove first hfirst
          by_contra hused
          exact absurd (dropName_used (by simpa using hused)) (by simp [hunused])
        · exact hspare mon' (mem_append_right _ (mem_cons_of_mem _ hmem))
  | noOutputs l =>
    have hl : layout.workspaces = l := by
      rw [workspaces, hset]
      rfl
    have hset' : ∀ l' : List (Workspace Id), Pruned (layout.workspaces.map (Workspace.dropName name)) l' →
        ({ layout with monitorSet := .noOutputs l' } : Layout Id).Orderly := fun l' hpruned =>
      h.pruned hpruned fun mon hmon => absurd hmon not_mem_nil
    dsimp only
    split
    · rename_i hnone
      refine YieldsFrom.of_pure ⟨rfl, h.unnamed fun ws hws => hother ws hws ?_⟩
      simpa using List.findIdx?_eq_none_iff.mp hnone ws (hl ▸ hws)
    · rename_i idx hidx
      refine lift_bind Ensures.self fun ws hget => ?_
      obtain ⟨front, rest, rfl, rfl⟩ := Vec.getElem?_eq_some_split.mp hget
      have hid : ws.id = id := by
        have := (List.findIdx?_eq_some_iff_getElem.mp hidx).2.1
        simpa using this
      rw [hl] at hname hother hids
      have hmap : layout.workspaces.map (Workspace.dropName name) = front ++ ws.unname :: rest := by
        rw [hl]
        exact map_dropName_of_id hids hname hid
      refine YieldsFrom.of_pure ⟨rfl, ?_⟩
      rw [set_append_length, eraseIdx_append_length]
      split_ifs with hwindows
      · have hpruned := Pruned.refl (layout.workspaces.map (Workspace.dropName name))
        nth_rewrite 2 [hmap] at hpruned
        exact ⟨hset' _ hpruned, hpruned⟩
      · have hunused : ws.unname.hasWindowsOrName = false := by
          rw [Workspace.hasWindowsOrName, or_eq_false_iff]
          exact ⟨eq_false_iff.mpr hwindows, rfl⟩
        have hpruned := Pruned.erase front rest hunused
        rw [← hmap] at hpruned
        exact ⟨hset' _ hpruned, hpruned⟩

/-- `unname_workspace`. -/
theorem unnameWorkspace_drops (h : layout.Orderly) (name : String) :
    YieldsFrom geometry n (layout.unnameWorkspace name) fun layout' n' => n' = n ∧
      layout'.Orderly ∧
        Pruned (layout.workspaces.map (Workspace.dropName name)) layout'.workspaces := by
  change YieldsFrom geometry n (layout.unnameWorkspaceByRef (.name name)) _
  refine lift_bind Ensures.self fun found hfound => ?_
  have hfound' : (layout.workspaces.find? (Workspace.isNamed name)).map Workspace.id = found :=
    some.inj hfound
  cases hfind : layout.workspaces.find? (Workspace.isNamed name) with
  | none =>
    obtain rfl : none = found := by rw [← hfound', hfind]; rfl
    exact YieldsFrom.of_pure ⟨rfl, h.unnamed fun ws hws => by
      simpa using List.find?_eq_none.mp hfind ws hws⟩
  | some ws =>
    obtain rfl : some ws.id = found := by rw [← hfound', hfind]; rfl
    have hws := mem_of_find?_eq_some hfind
    have hnamed := List.find?_some hfind
    refine unnameWorkspaceById_drops geometry n h fun w hw => ⟨fun hother => ?_, fun hsame => ?_⟩
    · exact h.apart w hw ws hws name hother hnamed
    · rwa [inj_on_of_nodup_map h.ids hw hws hsame]

/-- The names of removed workspaces are dropped, one after another. -/
theorem unnameAll_drops (h : layout.Orderly) (names : List String) :
    YieldsFrom geometry n (names.foldlM unnameWorkspace layout) fun layout' n' => n' = n ∧
      layout'.Orderly ∧
        Pruned (layout.workspaces.map (Workspace.dropNames names)) layout'.workspaces := by
  induction names generalizing layout with
  | nil =>
    refine YieldsFrom.of_pure ⟨rfl, h, ?_⟩
    rw [show Workspace.dropNames [] = fun ws : Workspace Id => ws from rfl, List.map_id']
    exact .refl _
  | cons name names ih =>
    refine (unnameWorkspace_drops geometry n h name).bind ?_
    rintro layout₁ _ ⟨rfl, h₁, hpruned₁⟩
    refine (ih h₁).mono ?_
    rintro layout₂ _ ⟨rfl, h₂, hpruned₂⟩
    refine ⟨rfl, h₂, ?_⟩
    have hmap : layout.workspaces.map (Workspace.dropNames (name :: names)) =
        (layout.workspaces.map (Workspace.dropName name)).map (Workspace.dropNames names) := by
      rw [List.map_map]
      exact map_congr_left fun ws _ => dropNames_cons
    rw [hmap]
    exact (hpruned₁.map fun _ => dropNames_used).trans hpruned₂

end Layout

/-! ## Overrides are taken over -/

/-- The override of the entry with this very name, as `update_config` compares names, if there is
    one. -/
def Config.overrideAfter (config : Config) (name : Option String) (layoutConfig : Option LayoutPart) :
    Option LayoutPart :=
  match name.bind fun name => config.workspaces.find? (·.name = name) with
  | some wsConfig => wsConfig.layout
  | none => layoutConfig

namespace Workspace

variable {config : Config} {ws ws' : Workspace Id}

/-- With the override of its entry. -/
def refreshed (config : Config) (ws : Workspace Id) : Workspace Id :=
  { ws with layoutConfig := config.overrideAfter ws.name ws.layoutConfig }

theorem updateLayoutConfig_like (h : ws.Inv) (layoutConfig : Option LayoutPart) :
    Ensures (ws.updateLayoutConfig layoutConfig) fun ws' =>
      ws'.Inv ∧ ({ ws with layoutConfig := layoutConfig } : Workspace Id).Like ws' := by
  refine Ensures.ite (fun hsame => of_some ⟨h, ?_⟩) fun _ => ?_
  · rw [← hsame]
    exact .refl ws
  · have hinv : ({ ws with layoutConfig := layoutConfig } : Workspace Id).Inv :=
      ⟨h.scrolling, h.floating, h.nodup⟩
    exact updateConfig_like hinv ws.baseOptions

theorem updateNamed_like (h : ws.Inv) (config : Config) :
    Ensures (Layout.updateNamed config ws) fun ws' =>
      ws'.Inv ∧ (ws.refreshed config).Like ws' := by
  have key : ∀ layoutConfig ws', config.overrideAfter ws.name ws.layoutConfig = layoutConfig →
      ({ ws with layoutConfig := layoutConfig } : Workspace Id).Like ws' →
        (ws.refreshed config).Like ws' := by
    rintro _ ws' rfl hlike
    exact hlike
  unfold Layout.updateNamed
  split
  · rename_i hname
    exact of_some ⟨h, key _ ws (by rw [Config.overrideAfter, hname]; rfl) (.refl ws)⟩
  · rename_i name hname
    split
    · rename_i hfind
      refine of_some ⟨h, key _ ws ?_ (.refl ws)⟩
      rw [Config.overrideAfter, hname, bind_some, hfind]
    · rename_i wsConfig hfind
      refine (updateLayoutConfig_like h wsConfig.layout).mono fun ws' h' => ⟨h'.1, key _ ws' ?_ h'.2⟩
      rw [Config.overrideAfter, hname, bind_some, hfind]

end Workspace

/-- The workspaces change, one by one. -/
theorem MonitorSet.mapWorkspaces_forall₂ (set : MonitorSet Id)
    {f : Workspace Id → Option (Workspace Id)} {R : Workspace Id → Workspace Id → Prop}
    (h : ∀ ws ∈ set.workspaces, Ensures (f ws) (R ws)) :
    Ensures (set.mapWorkspaces f) fun set' =>
      List.Forall₂ R set.workspaces set'.workspaces ∧
      List.Forall₂ (fun mon mon' => mon'.options = mon.options ∧
        List.Forall₂ R mon.workspaces mon'.workspaces) set.monitors set'.monitors := by
  cases set with
  | normal monitors primaryIdx activeIdx =>
    refine Ensures.bind (Ensures.mapM fun mon hmon => ?_) fun monitors' hmonitors =>
      of_pure ⟨rel_flatMap hmonitors fun _ _ hmon => hmon.2, hmonitors⟩
    exact (Ensures.mapM fun ws hws => h ws (mem_flatMap.mpr ⟨mon, hmon, hws⟩)).bind
      fun workspaces hworkspaces => of_pure ⟨rfl, hworkspaces⟩
  | noOutputs workspaces =>
    exact (Ensures.mapM h).bind fun workspaces' hworkspaces =>
      of_pure ⟨hworkspaces, .nil⟩

/-! ## Options are taken over -/

namespace Monitor

variable {mon : Monitor Id} {n : WorkspaceId}

theorem SpareFirst.of_like {mon' : Monitor Id} {f : Workspace Id → Workspace Id}
    (hf : ∀ ws, (f ws).hasWindowsOrName = ws.hasWindowsOrName) (h : mon.SpareFirst)
    (hoptions : mon'.options = mon.options)
    (hlike : List.Forall₂ (fun ws ws' => (f ws).Like ws') mon.workspaces mon'.workspaces) :
    mon'.SpareFirst := by
  intro habove ws' hws'
  unfold Monitor.emptyAboveFirst at habove
  rw [hoptions] at habove
  cases hl : mon.workspaces with
  | nil =>
    rw [hl, List.forall₂_nil_left_iff] at hlike
    rw [hlike] at hws'
    cases hws'
  | cons ws rest =>
    rw [hl, List.forall₂_cons_left_iff] at hlike
    obtain ⟨ws₁, rest', hfirst, -, hl'⟩ := hlike
    rw [hl'] at hws'
    cases hws'
    rw [hfirst.used, hf]
    exact h habove ws (by rw [hl]; rfl)

variable (geometry : Output → OutputGeometry) (config : Config)

/-- A new empty workspace comes in. -/
theorem addWorkspaceAt_passes (idx : ℕ) :
    YieldsFrom geometry n (mon.addWorkspaceAt idx) fun mon' n' => n ≤ n' ∧
      mon'.options = mon.options ∧ Passes config n mon.workspaces mon'.workspaces ∧
        ((∀ ws ∈ mon.workspaces, ws.Inv) → ∀ ws ∈ mon'.workspaces, ws.Inv) := by
  refine YieldsFrom.bind (P := fun ws n' => n ≤ n' ∧ ws.IsNew config n ∧ ws.Inv) ?_ ?_
  · intro p hp
    obtain rfl : (Workspace.new n geometry mon.output mon.options, n + 1) = p := some.inj hp
    exact ⟨le_succ n, ⟨le_rfl, rfl⟩, newEmpty_inv ..⟩
  · rintro ws n' ⟨hle, hnew, hinv⟩
    refine lift_bind Ensures.self fun workspaces hinsert => YieldsFrom.of_pure
      ⟨hle, rfl, .insert hnew hinsert, fun hall w hw => ?_⟩
    rcases mem_cons.mp ((insertAt_perm hinsert).mem_iff.mp hw) with rfl | hw
    · exact hinv
    · exact hall w hw

theorem toggleTop_passes (hspare : mon.SpareFirst) (hinv : ∀ ws ∈ mon.workspaces, ws.Inv)
    (emptyAboveFirst : Bool) :
    YieldsFrom geometry n (mon.toggleTop emptyAboveFirst) fun mon' n' => n ≤ n' ∧
      Passes config n mon.workspaces mon'.workspaces ∧ ∀ ws ∈ mon'.workspaces, ws.Inv := by
  refine YieldsFrom.ite (fun hchange => YieldsFrom.ite (fun _ => ?_) fun hoff =>
    YieldsFrom.ite (fun _ => YieldsFrom.of_pure ?_) fun _ => YieldsFrom.of_pure ?_)
    fun _ => YieldsFrom.of_pure ⟨le_rfl, .refl .., hinv⟩
  · exact (addWorkspaceAt_passes geometry config 0).mono
      fun mon' n' h => ⟨h.1, h.2.2.1, h.2.2.2 hinv⟩
  · -- There was to be a spare one above the first, and it goes.
    have habove : mon.emptyAboveFirst = true := by
      have hne := hchange.1
      cases h : mon.emptyAboveFirst with
      | false => exact absurd (h.trans (by simpa using hoff)) hne
      | true => rfl
    cases hl : mon.workspaces with
    | nil => exact ⟨le_rfl, .refl .., fun ws hws => absurd hws not_mem_nil⟩
    | cons first rest =>
      have hunused := hspare habove first (by rw [hl]; rfl)
      refine ⟨le_rfl, .of_pruned config n (.erase [] rest hunused), fun ws hws => hinv ws ?_⟩
      rw [hl]
      exact mem_cons_of_mem first hws
  · exact ⟨le_rfl, .refl .., hinv⟩

/-- Every workspace takes the options over. -/
theorem updateAll_like (n : WorkspaceId) (l : List (Workspace Id)) (options : Options) :
    YieldsFrom geometry n (l.mapM (liftM <| Workspace.updateConfig · options))
      fun l' n' => n' = n ∧ List.Forall₂ (fun ws ws' => ws.Inv → ws.Like ws') l l' := by
  refine YieldsFrom.mapM (I := fun l s l' s' => s' = s ∧
    List.Forall₂ (fun ws ws' => ws.Inv → ws.Like ws') l l') ?_ ?_ l n
  · exact fun _ => ⟨rfl, .nil⟩
  · refine fun ws l s => (YieldsFrom.lift (P := fun ws' => ws.Inv → ws.Like ws')
      fun ws' hws' hinv => (updateConfig_like hinv options ws' hws').2).mono ?_
    rintro ws' _ ⟨rfl, hlike⟩ l' _ ⟨rfl, hl⟩
    exact ⟨rfl, .cons hlike hl⟩

theorem updateConfig_passes (hspare : mon.SpareFirst) (hinv : ∀ ws ∈ mon.workspaces, ws.Inv)
    (baseOptions : Options) :
    YieldsFrom geometry n (mon.updateConfig baseOptions) fun mon' n' => n ≤ n' ∧
      Passes config n mon.workspaces mon'.workspaces := by
  refine (toggleTop_passes geometry config hspare hinv _).bind ?_
  rintro mon₁ n₁ ⟨hle, hpasses, hinv₁⟩
  refine (updateAll_like geometry n₁ mon₁.workspaces _).bind ?_
  rintro workspaces _ ⟨rfl, hlike⟩
  refine YieldsFrom.of_pure ⟨hle, hpasses.trans (.of_forall₂ config n ?_)⟩
  exact (List.forall₂_and_left _ _).mpr ⟨hinv₁, hlike⟩ |>.imp fun ws ws' h => h.2 h.1

/-- The monitors take the options over, one after another. -/
theorem updateConfigAll_passes (options : Options) {l : List (Monitor Id)}
    (h : ∀ mon ∈ l, mon.SpareFirst ∧ ∀ ws ∈ mon.workspaces, ws.Inv) :
    YieldsFrom geometry n (l.mapM fun mon => mon.updateConfig options) fun l' n' => n ≤ n' ∧
      List.Forall₂ (fun mon mon' : Monitor Id => Passes config n mon.workspaces mon'.workspaces)
        l l' := by
  induction l generalizing n with
  | nil => exact YieldsFrom.of_pure ⟨le_rfl, .nil⟩
  | cons mon l ih =>
    rw [mapM_cons]
    obtain ⟨hspare, hinv⟩ := h mon mem_cons_self
    refine (updateConfig_passes geometry config hspare hinv options).bind fun mon' n₁ h₁ =>
      (ih fun m hm => h m (mem_cons_of_mem mon hm)).bind fun l' n₂ h₂ => YieldsFrom.of_pure ?_
    exact ⟨h₁.1.trans h₂.1, .cons h₁.2 (h₂.2.imp fun _ _ hpasses => hpasses.mono h₁.1)⟩

end Monitor

namespace Layout

variable {layout : Layout Id} {n : WorkspaceId}

variable (geometry : Output → OutputGeometry) (config : Config)

theorem updateOptions_passes (hspare : ∀ mon ∈ layout.monitorSet.monitors, mon.SpareFirst)
    (hinv : ∀ ws ∈ layout.workspaces, ws.Inv) (options : Options) :
    YieldsFrom geometry n (layout.updateOptions options) fun layout' n' => n ≤ n' ∧
      Passes config n layout.workspaces layout'.workspaces := by
  refine read_bind ?_
  unfold workspaces at hinv ⊢
  cases hset : layout.monitorSet with
  | normal monitors primaryIdx activeIdx =>
    rw [hset] at hspare hinv
    refine ((Monitor.updateConfigAll_passes geometry config options fun mon hmon =>
      ⟨hspare mon hmon, fun ws hws => hinv ws (mem_flatMap.mpr ⟨mon, hmon, hws⟩)⟩).bind
        fun monitors' n' h' => YieldsFrom.of_pure (a := .normal monitors' primaryIdx activeIdx)
          (P := fun (set : MonitorSet Id) n' => n ≤ n' ∧
            Passes config n (monitors.flatMap Monitor.workspaces) set.workspaces)
              ⟨h'.1, .flatMap h'.2⟩).bind fun set n' h' => YieldsFrom.of_pure h'
  | noOutputs workspaces =>
    rw [hset] at hinv
    refine (YieldsFrom.lift (MonitorSet.mapWorkspaces_forall₂ (.noOutputs workspaces)
      fun ws hws => updateConfig_like (hinv ws hws) options)).bind ?_
    rintro set _ ⟨rfl, hlike, -⟩
    exact YieldsFrom.of_pure ⟨le_rfl, .of_forall₂ config _ (hlike.imp fun _ _ h => h.2)⟩

/-- `update_config`. -/
theorem updateConfig_passes (h : layout.Orderly) :
    YieldsFrom geometry n (layout.updateConfig config) fun layout' n' => n ≤ n' ∧
      Passes config n (layout.workspaces.map (Workspace.refreshed config)) layout'.workspaces := by
  refine YieldsFrom.bind (P := fun layout₁ n₁ => n₁ = n ∧
    Passes config n (layout.workspaces.map (Workspace.refreshed config)) layout₁.workspaces ∧
      (∀ ws ∈ layout₁.workspaces, ws.Inv) ∧
        ∀ mon ∈ layout₁.monitorSet.monitors, mon.SpareFirst) ?_ ?_
  · refine (YieldsFrom.lift (MonitorSet.mapWorkspaces_forall₂ layout.monitorSet
      fun ws hws => updateNamed_like (h.inv ws hws) config)).bind ?_
    rintro set _ ⟨rfl, hlike, hmonitors⟩
    refine YieldsFrom.of_pure ⟨rfl, .of_forall₂ config _ ?_, fun ws' hws' => ?_, fun mon' hmon' => ?_⟩
    · exact List.forall₂_map_left_iff.mpr (hlike.imp fun _ _ h => h.2)
    · exact ((List.forall₂_and_left _ _).mp hlike.flip).1 ws' hws'
    · have hspare := ((List.forall₂_and_left _ _).mpr ⟨h.spare, hmonitors⟩).imp
        fun mon mon' h' => h'.1.of_like (f := Workspace.refreshed config) (fun _ => rfl) h'.2.1
          (h'.2.2.imp fun _ _ h => h.2)
      exact ((List.forall₂_and_left (p := Monitor.SpareFirst) _ _).mp
        (hspare.imp fun _ _ h' => ⟨h', trivial⟩).flip).1 mon' hmon'
  · rintro layout₁ _ ⟨rfl, hpasses, hinv, hspare⟩
    exact (updateOptions_passes geometry config hspare hinv config.options).mono
      fun layout' n' h' => ⟨h'.1, hpasses.trans h'.2⟩

end Layout

/-! ## Workspaces are created -/

variable {ws : Workspace Id} {name : String}

theorem Workspace.isNamed_used (h : ws.isNamed name = true) : ws.hasWindowsOrName = true := by
  unfold Workspace.isNamed at h
  rw [Workspace.hasWindowsOrName, or_eq_true]
  cases hname : ws.name with
  | none => simp [hname] at h
  | some other => exact .inr rfl

theorem Workspace.isNamed_congr {other : String} (h : eqIgnoreAsciiCase name other = true)
    (hnamed : ws.isNamed name = true) : ws.isNamed other = true := by
  unfold Workspace.isNamed at hnamed ⊢
  cases hname : ws.name with
  | none => simp [hname] at hnamed
  | some own =>
    rw [hname, any_some] at hnamed
    exact eqIgnoreAsciiCase_trans hnamed h

theorem Workspace.Like.isNamed {ws' : Workspace Id} (h : ws.Like ws')
    (hnamed : ws.isNamed name = true) : ws'.isNamed name = true := by
  unfold Workspace.isNamed at hnamed ⊢
  rwa [h.name]

namespace Monitor

variable {mon : Monitor Id} {config : Config} {ws : Workspace Id} {n : WorkspaceId}

variable (geometry : Output → OutputGeometry)

theorem adoptWorkspace_like (n : WorkspaceId) (h : ws.Inv) (output : Output) (options : Options) :
    YieldsFrom geometry n (adoptWorkspace output options ws) fun ws' n' => n' = n ∧ ws.Like ws' := by
  refine read_bind (lift_bind
    ((setOutput_rehomed geometry (some output) h).and
      (ws.setOutput_layoutConfig geometry (some output))) fun ws₁ h₁ => ?_)
  refine (YieldsFrom.lift (updateConfig_like h₁.1.inv options)).mono ?_
  rintro ws₂ _ ⟨rfl, -, hlike⟩
  refine ⟨rfl, .trans ⟨h₁.1.id, h₁.1.name, h₁.2, ?_⟩ hlike⟩
  rw [hasWindows_eq, hasWindows_eq, h₁.1.ids.isEmpty_eq]

/-- A new workspace with a name comes on the monitor. -/
theorem insertWorkspace_passes {k : WorkspaceId} (hk : k ≤ n) (h : ws.Inv)
    (hnew : ws.IsNew config k) {name : String} (hnamed : ws.isNamed name = true) (idx : ℕ) :
    YieldsFrom geometry n (mon.insertWorkspace ws idx false) fun mon' n' => n ≤ n' ∧
      Passes config k mon.workspaces mon'.workspaces ∧
        ∃ ws' ∈ mon'.workspaces, ws'.isNamed name = true := by
  refine (adoptWorkspace_like geometry n h mon.output mon.options).bind ?_
  rintro ws₁ n ⟨rfl, hlike⟩
  refine YieldsFrom.bind (P := fun mon₁ n₁ => n ≤ n₁ ∧
    Passes config k mon.workspaces mon₁.workspaces) (YieldsFrom.ite (fun _ => ?_)
      fun _ => YieldsFrom.of_pure ⟨le_rfl, .refl ..⟩) ?_
  · exact (addWorkspaceAt_passes geometry config 0).mono
      fun mon₁ n₁ h₁ => ⟨h₁.1, h₁.2.2.1.mono hk⟩
  · rintro mon₁ n₁ ⟨hle, hpasses⟩
    refine lift_bind Ensures.self fun workspaces hinsert => ?_
    refine lift_bind Ensures.self fun mon₂ hmon₂ => ?_
    cases hmon₂
    refine (YieldsFrom.lift (stopSwitchAndCleanUp_trimmed _)).mono ?_
    rintro mon₃ _ ⟨rfl, htrimmed⟩
    have hpruned := htrimmed.workspaces
    refine ⟨hle, (hpasses.trans (.insert (hlike.isNew hnew) hinsert)).trans
      (.of_pruned config k hpruned), ws₁, hpruned.used ws₁ ?_ ?_, hlike.isNamed hnamed⟩
    · exact (insertAt_perm hinsert).mem_iff.mpr mem_cons_self
    · exact isNamed_used (hlike.isNamed hnamed)

end Monitor

namespace Layout

variable {layout : Layout Id} {config : Config} {n : WorkspaceId}

variable (geometry : Output → OutputGeometry)

/-- `ensure_named_workspace`, for an entry whose override is the one for its name, unless there is a
    workspace already. -/
theorem ensureNamedWorkspace_passes (config : Config) {wsConfig : WorkspaceConfig}
    (h : layout.findWorkspaceByName wsConfig.name = none →
      wsConfig.layout = config.overrideFor (some wsConfig.name)) :
    YieldsFrom geometry n (layout.ensureNamedWorkspace wsConfig) fun layout' n' => n ≤ n' ∧
      Passes config n layout.workspaces layout'.workspaces ∧
        ∃ ws ∈ layout'.workspaces, ws.isNamed wsConfig.name = true := by
  refine YieldsFrom.ite (fun hfound => YieldsFrom.of_pure ⟨le_rfl, .refl .., ?_⟩) fun hnone => ?_
  · obtain ⟨ws, hws⟩ := isSome_iff_exists.mp hfound
    exact ⟨ws, mem_of_find?_eq_some hws, List.find?_some hws⟩
  have hlayout := h (by simpa using hnone)
  unfold workspaces
  cases hset : layout.monitorSet with
  | normal monitors primaryIdx activeIdx =>
    refine lift_bind Ensures.self fun mon hget => ?_
    obtain ⟨front, rest, rfl, hlen⟩ := Vec.getElem?_eq_some_split.mp hget
    refine YieldsFrom.bind (P := fun ws n' => n' = n + 1 ∧ ws.Inv ∧ ws.IsNew config n ∧
      ws.isNamed wsConfig.name = true) ?_ ?_
    · intro p hp
      obtain rfl : (Workspace.newWithConfig n geometry mon.output (some wsConfig) layout.options,
        n + 1) = p := some.inj hp
      exact ⟨rfl, newEmpty_inv .., ⟨le_rfl, hlayout⟩, eqIgnoreAsciiCase_refl _⟩
    · rintro ws _ ⟨rfl, hinv, hnew, hnamed⟩
      refine (Monitor.insertWorkspace_passes geometry (le_succ n) hinv hnew hnamed 0).bind ?_
      rintro mon' n' ⟨hle, hpasses, ws', hws', hnamed'⟩
      refine YieldsFrom.of_pure ⟨(le_succ n).trans hle, ?_, ws', ?_, hnamed'⟩
      · rw [← hlen, set_append_length]
        change Passes config n (List.flatMap _ _) (List.flatMap _ _)
        rw [flatMap_append, flatMap_cons, flatMap_append, flatMap_cons]
        exact (Passes.refl ..).append (hpasses.append (.refl ..))
      · rw [← hlen, set_append_length]
        exact mem_flatMap.mpr ⟨mon', by simp, hws'⟩
  | noOutputs workspaces =>
    intro p hp
    obtain rfl : ({ layout with monitorSet := .noOutputs (Workspace.newWithConfigNoOutputs n
      (some wsConfig) layout.options :: workspaces) }, n + 1) = p := some.inj hp
    refine ⟨le_succ n, .insert (i := 0) ⟨le_rfl, hlayout⟩ rfl, _, mem_cons_self, ?_⟩
    exact eqIgnoreAsciiCase_refl _

/-- Entry after entry. -/
theorem ensureAll_passes (done : List WorkspaceConfig) {todo : List WorkspaceConfig}
    (hconfig : config.workspaces = done ++ todo)
    (hdone : ∀ wsConfig ∈ done, ∃ ws ∈ layout.workspaces, ws.isNamed wsConfig.name = true) :
    YieldsFrom geometry n (todo.foldlM ensureNamedWorkspace layout) fun layout' n' => n ≤ n' ∧
      Passes config n layout.workspaces layout'.workspaces := by
  induction todo generalizing done layout n with
  | nil => exact YieldsFrom.of_pure ⟨le_rfl, .refl ..⟩
  | cons wsConfig todo ih =>
    refine (ensureNamedWorkspace_passes geometry config fun hnone => ?_).bind ?_
    · -- No earlier entry has the name: there is a workspace for each of them.
      have hbefore : done.find? (eqIgnoreAsciiCase wsConfig.name ·.name) = none := by
        refine List.find?_eq_none.mpr fun earlier hearlier hsame => ?_
        obtain ⟨ws, hws, hnamed⟩ := hdone earlier hearlier
        refine List.find?_eq_none.mp hnone ws hws ?_
        exact isNamed_congr (eqIgnoreAsciiCase_symm hsame) hnamed
      rw [Config.overrideFor, bind_some, hconfig, List.find?_append, hbefore,
        none_or, List.find?_cons, eqIgnoreAsciiCase_refl]
      rfl
    · rintro layout₁ n₁ ⟨hle, hpasses, hnamed⟩
      refine (ih (done ++ [wsConfig]) (by simp [hconfig]) ?_).mono
        fun layout' n' h' => ⟨hle.trans h'.1, hpasses.trans (h'.2.mono hle)⟩
      intro earlier hearlier
      rcases mem_append.mp hearlier with hearlier | hlast
      · obtain ⟨ws, hws, hnamed⟩ := hdone earlier hearlier
        obtain ⟨ws', hws', hlike⟩ := hpasses.kept ws hws (isNamed_used hnamed)
        exact ⟨ws', hws', hlike.isNamed hnamed⟩
      · rwa [mem_singleton.mp hlast]

end Layout

/-! ## A reload -/

namespace Workspace

variable {old new : Config} {ws : Workspace Id}

/-- The name that is left: none, if it is one that the config no longer has. -/
def nameAfter (old new : Config) (ws : Workspace Id) : Option String :=
  if (Layout.removedWorkspaces old new).any (ws.isNamed ·) then none else ws.name

/-- **The override is reconciled**: without a name there was none, and with one it is taken over from
    an entry with this very name, which is the first that has it up to case, or it was right before. -/
def Reconciles (old new : Config) (ws : Workspace Id) : Prop :=
  match ws.nameAfter old new with
  | none => ws.layoutConfig = none
  | some name =>
    match new.workspaces.find? (·.name = name) with
    | some wsConfig => wsConfig.layout = new.overrideFor (some name)
    | none => ws.layoutConfig = new.overrideFor (some name)

/-- What a reload makes of a workspace. -/
def reloaded (old new : Config) (ws : Workspace Id) : Workspace Id :=
  (ws.dropNames (Layout.removedWorkspaces old new)).refreshed new

theorem reloaded_id : (ws.reloaded old new).id = ws.id := dropNames_id

theorem reloaded_hasWindows : (ws.reloaded old new).hasWindows = ws.hasWindows := dropNames_hasWindows

theorem reloaded_name : (ws.reloaded old new).name = ws.nameAfter old new := by
  change (ws.dropNames _).name = _
  unfold dropNames nameAfter
  split_ifs <;> rfl

theorem reconciles_iff : ws.Reconciles old new ↔
    (ws.reloaded old new).layoutConfig = new.overrideFor (ws.reloaded old new).name := by
  have hoverride : (ws.reloaded old new).layoutConfig =
      new.overrideAfter (ws.nameAfter old new) ws.layoutConfig := by
    change new.overrideAfter (ws.reloaded old new).name (ws.dropNames _).layoutConfig = _
    rw [reloaded_name, dropNames_layoutConfig]
  rw [hoverride, reloaded_name, Reconciles, Config.overrideAfter]
  cases ws.nameAfter old new with
  | none => exact Iff.rfl
  | some name =>
    rw [bind_some]
    dsimp only
    cases new.workspaces.find? (·.name = name) with
    | none | some => exact Iff.rfl

end Workspace

namespace Layout

variable {layout : Layout Id} {n : WorkspaceId}

/-- **A reload**, workspace by workspace. -/
theorem reloadConfig_passes (geometry : Output → OutputGeometry) (h : layout.Orderly)
    (old new : Config) :
    YieldsFrom geometry n (layout.reloadConfig old new) fun layout' _ =>
      Passes new n (layout.workspaces.map (Workspace.reloaded old new)) layout'.workspaces := by
  refine (unnameAll_drops geometry n h (removedWorkspaces old new)).bind ?_
  rintro layout₁ n ⟨rfl, h₁, hpruned⟩
  refine (updateConfig_passes geometry new h₁).bind ?_
  rintro layout₂ n₂ ⟨hle, hpasses⟩
  refine (ensureAll_passes geometry [] rfl fun _ hin => absurd hin not_mem_nil).mono ?_
  rintro layout₃ n₃ ⟨-, hpasses'⟩
  have hrefreshed := hpruned.map (f := Workspace.refreshed new) fun _ hused => hused
  rw [List.map_map] at hrefreshed
  exact ((Passes.of_pruned new n hrefreshed).trans hpasses).trans (hpasses'.mono hle)

/-- **A reload reconciles the overrides**, exactly of the workspaces where it does; those with windows
    or a name are still there, and the new ones have theirs. -/
theorem overrides_reconciled (geometry : Output → OutputGeometry) (h : layout.Orderly)
    (hfresh : ∀ ws ∈ layout.workspaces, ws.id < n) (old new : Config) {layout' : Layout Id}
    {n' : WorkspaceId}
    (hrun : ((layout.reloadConfig old new).run geometry).run n = some (layout', n')) :
    (∀ ws' ∈ layout'.workspaces, ws'.layoutConfig = new.overrideFor ws'.name ↔
      ∀ ws ∈ layout.workspaces, ws.id = ws'.id → ws.Reconciles old new) ∧
    ∀ ws ∈ layout.workspaces, ws.hasWindows = true ∨ (ws.nameAfter old new).isSome = true →
      ∃ ws' ∈ layout'.workspaces, ws'.id = ws.id := by
  have hpasses := (reloadConfig_passes geometry h old new).elim hrun
  refine ⟨fun ws' hws' => ?_, fun ws hws hused => ?_⟩
  · rcases hpasses.source ws' hws' with hnew | ⟨w, hw, hlike⟩
    · refine iff_of_true hnew.layoutConfig fun ws hws hid => ?_
      have hlt := (hfresh ws hws).trans_le hnew.fresh
      exact absurd hid hlt.ne
    · obtain ⟨ws, hws, rfl⟩ := mem_map.mp hw
      rw [hlike.layoutConfig, hlike.name, ← reconciles_iff, hlike.id, reloaded_id]
      refine ⟨fun hreconciles ws₁ hws₁ hid => ?_, fun hall => hall ws hws rfl⟩
      rwa [inj_on_of_nodup_map h.ids hws₁ hws hid]
  · obtain ⟨ws', hws', hlike⟩ := hpasses.kept _ (mem_map_of_mem hws) (by
      rw [Workspace.hasWindowsOrName, reloaded_hasWindows, reloaded_name, or_eq_true]
      exact hused)
    exact ⟨ws', hws', hlike.id.trans reloaded_id⟩

end Layout

/-! ## A stale override -/

open Monitor (someOutput someGeometry)

/-- One workspace with a name, and its gaps. -/
def webConfig (gaps : ℚ) : Config where
  options := Options.default
  workspaces := [⟨"web", none, some { gaps := some gaps }⟩]

/-- The workspace, and the empty one below it. -/
def webMonitor : Monitor ℕ where
  output := someOutput
  workspaces :=
    [Workspace.newWithConfig 0 someGeometry someOutput (webConfig 10).workspaces[0]? Options.default,
      Workspace.new 1 someGeometry someOutput Options.default]
  activeWorkspaceIdx := 0
  previousWorkspaceId := none
  workspaceSwitch := none
  overviewOpen := false
  baseOptions := Options.default
  options := Options.default
  layoutConfig := none

def webLayout : Layout ℕ :=
  { Layout.withOptions Options.default with monitorSet := .normal [webMonitor] 0 0 }

theorem webLayout_orderly : webLayout.Orderly where
  ids := by decide
  apart := by
    intro ws hws ws' hws' name hnamed hnamed'
    have key : ∀ w ∈ webLayout.workspaces, w.isNamed name = true → w.id = 0 := by
      intro w hw hname
      rcases mem_pair.mp hw with rfl | rfl
      · rfl
      · cases hname
    rw [key ws hws hnamed, key ws' hws' hnamed']
  inv := by
    intro ws hws
    rcases mem_pair.mp hws with rfl | rfl <;> exact newEmpty_inv ..
  spare := by
    intro mon hmon habove
    cases mem_singleton.mp hmon
    cases habove

/-- New gaps are taken over. -/
theorem overrides_reconciled_webLayout : ∃ layout' n',
    ((webLayout.reloadConfig (webConfig 10) (webConfig 20)).run someGeometry).run 2 =
      some (layout', n') ∧
    (∀ ws' ∈ layout'.workspaces, ws'.layoutConfig = (webConfig 20).overrideFor ws'.name ↔
      ∀ ws ∈ webLayout.workspaces, ws.id = ws'.id → ws.Reconciles (webConfig 10) (webConfig 20)) ∧
    ∀ ws ∈ webLayout.workspaces,
      ws.hasWindows = true ∨ (ws.nameAfter (webConfig 10) (webConfig 20)).isSome = true →
        ∃ ws' ∈ layout'.workspaces, ws'.id = ws.id := by
  have hruns : (((webLayout.reloadConfig (webConfig 10) (webConfig 20)).run someGeometry).run
    2).isSome = true := by decide +kernel
  obtain ⟨⟨layout', n'⟩, hrun⟩ := isSome_iff_exists.mp hruns
  exact ⟨layout', n', hrun, Layout.overrides_reconciled someGeometry webLayout_orderly
    (by decide) (webConfig 10) (webConfig 20) hrun⟩

/-- No workspace with a name. -/
def plainConfig : Config := ⟨Options.default, []⟩

/-- The layout is new, an output is connected, and the config is reloaded. -/
def startAndReload (old new : Config) : LayoutM (Layout ℕ) := do
  let layout ← Layout.new old
  let layout ← layout.addOutput someOutput none
  layout.reloadConfig old new

/-- **The workspace loses its name, and keeps its gaps.** -/
theorem reloadConfig_stale : ∃ layout' n',
    ((startAndReload (webConfig 10) plainConfig).run someGeometry).run 0 = some (layout', n') ∧
    ¬ ∀ ws ∈ layout'.workspaces, ws.layoutConfig = plainConfig.overrideFor ws.name := by
  have hruns : (((startAndReload (webConfig 10) plainConfig).run someGeometry).run 0).map
        (fun p => p.1.workspaces.map fun ws => (ws.name, ws.layoutConfig)) =
      some [(none, some { gaps := some 10 }), (none, none)] := by decide +kernel
  obtain ⟨⟨layout', n'⟩, hrun, hlist⟩ := map_eq_some_iff.mp hruns
  refine ⟨layout', n', hrun, fun h => ?_⟩
  have hmem : (none, some { gaps := some 10 }) ∈
      layout'.workspaces.map fun ws => (ws.name, ws.layoutConfig) := by
    rw [hlist]
    exact mem_cons_self
  obtain ⟨ws, hws, heq⟩ := mem_map.mp hmem
  rw [Prod.mk.injEq] at heq
  have hsame := h ws hws
  rw [heq.1, heq.2] at hsame
  cases hsame

end Tiri.Layout
