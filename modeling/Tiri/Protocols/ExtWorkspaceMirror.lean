import Tiri.Lib.Run
import Tiri.Protocols.ExtWorkspaceShows

/-!
# The ext-workspace clients mirror the layout

The layout is refreshed in any order with managers being bound and stopped.

Results:
* `Inv.refresh`, `Inv.bind`, `Inv.stop`: every client sees what the state has;
* `Inv.mirrors`: and that is what the layout has;
* `mirrored_iff`: every event is balanced as well, exactly when no refresh has a workspace that got
  renamed or lost its name and moved to another output at once.
-/

namespace Tiri.Protocols.ExtWorkspace

open Run List Function Nat HashMap Display
open Option hiding all_eq_true filter_filter filter_map mem_toFinset or_assoc
open Finmap hiding mem_singleton

variable {M Output WorkspaceId : Type} [DecidableEq M] [DecidableEq Output] [DecidableEq WorkspaceId]

section Order

variable {s : ExtWorkspaceManagerState M Output WorkspaceId} {layout : Layout Output WorkspaceId}
variable {order : Order M Output WorkspaceId}

theorem Order.Valid.manages (h : order.Valid s layout) : s.Manages order.managers :=
  ⟨h.managers.1, fun m => by rw [← h.managers.2, mem_toFinset]⟩

theorem Order.Valid.lists (h : order.Valid s layout) : s.Lists order.workspaces := by
  refine ⟨h.workspaces.1, fun id data hlookup => ?_⟩
  rw [← mem_toFinset, h.workspaces.2, Finmap.mem_keys]
  exact mem_of_lookup_eq_some hlookup

theorem Order.Valid.mem_groups (h : order.Valid s layout) {output : Output}
    (hmem : output ∈ s.workspaceGroups) : output ∈ order.groups := by
  rw [← mem_toFinset, h.groups.2, Finmap.mem_keys]
  exact hmem

end Order

theorem Owned.append {managers : Finset M} {instances : List (Handle M)}
    (h : Owned managers instances) {m : M} (hm : m ∉ managers) (id : ℕ) :
    Owned (insert m managers) (instances ++ [⟨id, m⟩]) := by
  have hmap : (instances ++ [(⟨id, m⟩ : Handle M)]).map Handle.manager =
      instances.map Handle.manager ++ [m] := map_append
  constructor
  · rw [hmap, nodup_append]
    refine ⟨h.nodup, nodup_singleton m, ?_⟩
    intro m' hm' m'' hm'' heq
    rw [mem_singleton.mp hm''] at heq
    exact hm ((h.mem_iff m).mp (heq ▸ hm'))
  · intro m'
    rw [hmap, mem_append, h.mem_iff, mem_singleton, Finset.mem_insert, or_comm]

/-- The view has the workspaces of the layout, the groups of its outputs, and each workspace in the
group of its output, all of them under different handles. -/
structure Mirrors (layout : Layout Output WorkspaceId) (handle : WorkspaceId → ℕ)
    (group : Output → ℕ) (v : View) : Prop where
  workspaces : ∀ h info, v.workspaces.lookup h = some info ↔
    ∃ ws ∈ layout.workspaces, handle ws.id = h ∧ ws.info = info
  groups : ∀ g, g ∈ v.groups ↔ ∃ output ∈ layout.sortedOutputs, group output = g
  members : ∀ g h, (g, h) ∈ v.members ↔ ∃ ws ∈ layout.workspaces,
    ∃ output ∈ layout.sortedOutputs, ws.output = some output ∧ group output = g ∧ handle ws.id = h
  handle_inj : ∀ ws ∈ layout.workspaces, ∀ ws' ∈ layout.workspaces,
    handle ws.id = handle ws'.id → ws.id = ws'.id
  group_inj : ∀ output ∈ layout.sortedOutputs, ∀ output' ∈ layout.sortedOutputs,
    group output = group output' → output = output'

namespace ExtWorkspaceManagerState

variable {s s' : ExtWorkspaceManagerState M Output WorkspaceId}

/-! ## What the state has -/

/-- What the state has of a workspace that clients are to know. -/
def content (s : ExtWorkspaceManagerState M Output WorkspaceId) (id : WorkspaceId) :
    Option (Info × Option Output) :=
  (s.workspaces.lookup id).map fun data => (data.info, data.output)

/-- The state has what the layout has. -/
structure Holds (layout : Layout Output WorkspaceId)
    (s : ExtWorkspaceManagerState M Output WorkspaceId) : Prop where
  workspaces : ∀ id x, s.content id = some x ↔
    ∃ ws ∈ layout.workspaces, ws.id = id ∧ (ws.info, ws.output) = x
  groups : ∀ output, output ∈ s.workspaceGroups ↔ output ∈ layout.sortedOutputs

omit [DecidableEq M] [DecidableEq Output] [DecidableEq WorkspaceId] in
/-- A loop that removes the keys that are not to be kept, and leaves something else as it is. -/
theorem refreshEach_retain {σ κ β γ : Type} [DecidableEq κ] (keep : κ → Prop) [DecidablePred keep]
    {f : σ → κ → σ × Bool} (view : σ → Finmap fun _ : κ => β) (other : σ → γ)
    (hstep : ∀ s k, other (f s k).1 = other s ∧
      ((view (f s k).1 = view s ∧ ((view s).lookup k = none ∨ keep k)) ∨
        (view (f s k).1 = (view s).erase k ∧ ¬ keep k)))
    (l : List κ) (s : σ) (changed : Bool) :
    other (refreshEach f l (s, changed)).1 = other s ∧
      ∀ k, (view (refreshEach f l (s, changed)).1).lookup k =
        if k ∈ l ∧ ¬ keep k then none else (view s).lookup k := by
  induction l generalizing s changed with
  | nil => exact ⟨rfl, fun k => (if_neg (by simp)).symm⟩
  | cons k' l ih =>
    have hlookup : ∀ k, (view (f s k').1).lookup k =
        if k = k' ∧ ¬ keep k then none else (view s).lookup k := by
      intro k
      by_cases heq : k = k'
      · subst heq
        rcases (hstep s k).2 with ⟨hview, hnone | hkeep⟩ | ⟨hview, hdrop⟩
        · rw [hview, hnone, ite_self]
        · rw [hview, if_neg fun h => h.2 hkeep]
        · rw [hview, lookup_erase, if_pos ⟨rfl, hdrop⟩]
      · rw [if_neg fun h => heq h.1]
        rcases (hstep s k').2 with ⟨hview, -⟩ | ⟨hview, -⟩
        · rw [hview]
        · rw [hview, lookup_erase_ne heq]
    obtain ⟨hother, hrest⟩ := ih (f s k').1 (changed || (f s k').2)
    refine ⟨hother.trans (hstep s k').1, fun k => (hrest k).trans ?_⟩
    rw [hlookup]
    by_cases heq : k = k'
    · subst heq
      by_cases hkeep : keep k
      · simp only [hkeep, not_true, and_false, if_false]
      · simp only [hkeep, not_false_eq_true, and_true, mem_cons, true_or, if_true, ite_self]
    · simp only [heq, false_and, if_false, mem_cons, false_or]

variable (layout : Layout Output WorkspaceId)

/-- The workspaces that the layout does not have are removed. -/
theorem retainWorkspaces_eq (l : List WorkspaceId)
    (s : ExtWorkspaceManagerState M Output WorkspaceId) (changed : Bool) :
    let r := refreshEach (retainWorkspace layout) l (s, changed)
    r.1.workspaceGroups = s.workspaceGroups ∧
      ∀ id, r.1.workspaces.lookup id =
        if id ∈ l ∧ id ∉ layout.workspaces.map LayoutWorkspace.id then none
        else s.workspaces.lookup id := by
  refine refreshEach_retain (· ∈ layout.workspaces.map LayoutWorkspace.id) (·.workspaces)
    (·.workspaceGroups) (fun s id => ?_) l s changed
  unfold retainWorkspace
  cases hlookup : s.workspaces.lookup id with
  | none => exact ⟨rfl, .inl ⟨rfl, .inl rfl⟩⟩
  | some data =>
    by_cases hmem : id ∈ layout.workspaces.map LayoutWorkspace.id
    · simp only [if_pos hmem]
      exact ⟨trivial, .inl ⟨trivial, .inr hmem⟩⟩
    · simp only [if_neg hmem]
      exact ⟨trivial, .inr ⟨trivial, hmem⟩⟩

/-- The groups whose outputs are gone are removed. -/
theorem retainGroups_eq (order : List WorkspaceId) (l : List Output)
    (s : ExtWorkspaceManagerState M Output WorkspaceId) (changed : Bool) :
    let r := refreshEach (retainGroup layout order) l (s, changed)
    r.1.workspaces = s.workspaces ∧
      ∀ output, r.1.workspaceGroups.lookup output =
        if output ∈ l ∧ output ∉ layout.sortedOutputs then none
        else s.workspaceGroups.lookup output := by
  refine refreshEach_retain (· ∈ layout.sortedOutputs) (·.workspaceGroups) (·.workspaces)
    (fun s output => ?_) l s changed
  unfold retainGroup
  cases hlookup : s.workspaceGroups.lookup output with
  | none => exact ⟨rfl, .inl ⟨rfl, .inl rfl⟩⟩
  | some data =>
    by_cases hmem : output ∈ layout.sortedOutputs
    · simp only [if_pos hmem]
      exact ⟨trivial, .inl ⟨trivial, .inr hmem⟩⟩
    · simp only [if_neg hmem]
      exact ⟨trivial, .inr ⟨trivial, hmem⟩⟩

/-- Every output has a group in the end. -/
theorem refreshWorkspaceGroups_eq (managers : List M) (order : List WorkspaceId) (l : List Output)
    (s : ExtWorkspaceManagerState M Output WorkspaceId) (changed : Bool) :
    let r := refreshEach (refreshWorkspaceGroup managers order) l (s, changed)
    r.1.workspaces = s.workspaces ∧
      ∀ output, output ∈ r.1.workspaceGroups ↔ output ∈ s.workspaceGroups ∨ output ∈ l := by
  induction l generalizing s changed with
  | nil => exact ⟨rfl, fun output => by simp [refreshEach]⟩
  | cons output' l ih =>
    have hstep : (s.refreshWorkspaceGroup managers order output').1.workspaces = s.workspaces ∧
        ∀ output, output ∈ (s.refreshWorkspaceGroup managers order output').1.workspaceGroups ↔
          output ∈ s.workspaceGroups ∨ output = output' := by
      unfold refreshWorkspaceGroup
      by_cases hmem : output' ∈ s.workspaceGroups
      · simp only [if_pos hmem]
        refine ⟨trivial, fun output => ⟨Or.inl, ?_⟩⟩
        rintro (h | rfl)
        · exact h
        · exact hmem
      · simp only [if_neg hmem]
        refine ⟨trivial, fun output => ?_⟩
        rw [mem_insert]
        exact or_comm
    obtain ⟨hworkspaces, hmem⟩ := ih (s.refreshWorkspaceGroup managers order output').1
      (changed || (s.refreshWorkspaceGroup managers order output').2)
    refine ⟨hworkspaces.trans hstep.1, fun output => (hmem output).trans ?_⟩
    rw [hstep.2, mem_cons, or_assoc]

/-! ## Refreshing -/

variable {managers : List M} {fair changed : Bool}

/-- **Every workspace is refreshed**, in a loop over workspaces with different ids. -/
theorem refreshWorkspaces_follows {l : List (LayoutWorkspace Output WorkspaceId)}
    (hnodup : (l.map LayoutWorkspace.id).Nodup) {s₀ : ExtWorkspaceManagerState M Output WorkspaceId}
    (h : Follows fair s₀ s changed) (hmanagers : s.Manages managers) :
    let r := refreshEach (refreshWorkspace managers) l (s, changed)
    Follows (fair && l.all s.Fair) s₀ r.1 r.2 ∧ r.1.instances = s.instances ∧
      r.1.workspaceGroups = s.workspaceGroups ∧
      (∀ id ∉ l.map LayoutWorkspace.id, r.1.workspaces.lookup id = s.workspaces.lookup id) ∧
      ∀ ws ∈ l, ∃ data, data.Matches ws ∧ r.1.workspaces.lookup ws.id = some data := by
  induction l generalizing s fair changed with
  | nil =>
    refine ⟨?_, rfl, rfl, fun _ _ => rfl, nofun⟩
    rw [all_nil, Bool.and_true]
    exact h
  | cons ws l ih =>
    rw [map_cons, nodup_cons] at hnodup
    obtain ⟨hfollows, hgroups, data, hmatches, hworkspaces⟩ :=
      h.inv.refreshWorkspace hmanagers ws
    have hmanagers' : (s.refreshWorkspace managers ws).1.Manages managers := by
      refine ⟨hmanagers.1, fun m => ?_⟩
      rw [hfollows.instances]
      exact hmanagers.2 m
    obtain ⟨hfollows', hinstances', hgroups', hkept, hdata⟩ :=
      ih hnodup.2 (h.trans hfollows) hmanagers'
    -- The other workspaces are as fair as they were.
    have hfair : l.all (s.refreshWorkspace managers ws).1.Fair = l.all s.Fair := by
      rw [Bool.eq_iff_iff, all_eq_true, all_eq_true]
      refine forall₂_congr fun ws' hws' => ?_
      have hne : ws'.id ≠ ws.id := by
        intro heq
        exact hnodup.1 (mem_map.mpr ⟨ws', hws', heq⟩)
      unfold Fair
      rw [hgroups, hworkspaces, lookup_insert_of_ne _ hne]
    refine ⟨?_, hinstances'.trans hfollows.instances, hgroups'.trans hgroups, ?_, ?_⟩
    · rw [hfair, Bool.and_assoc] at hfollows'
      exact hfollows'
    · intro id hid
      rw [map_cons, mem_cons, not_or] at hid
      refine (hkept id hid.2).trans ?_
      rw [hworkspaces, lookup_insert_of_ne _ hid.1]
    · intro ws' hws'
      rcases mem_cons.mp hws' with rfl | hws'
      · refine ⟨data, hmatches, (hkept ws'.id hnodup.1).trans ?_⟩
        rw [hworkspaces, lookup_insert]
      · exact hdata ws' hws'

/-- The refresh is balanced: no workspace misleaves a group that is retained. -/
def FairLayout (s : ExtWorkspaceManagerState M Output WorkspaceId)
    (layout : Layout Output WorkspaceId) : Prop :=
  ∀ ws ∈ layout.workspaces, ∀ data, s.workspaces.lookup ws.id = some data →
    data.id.isSome = true → data.id ≠ ws.name → data.output ≠ ws.output →
      ∀ output ∈ layout.sortedOutputs, ws.output = some output → output ∉ s.workspaceGroups

variable {l : List WorkspaceId} {layout : Layout Output WorkspaceId} {m : M} {outputs : List Output}
variable {newWorkspaces : HashMap Output (List (Handle M))}

omit [DecidableEq M] in
/-- The layout is fair when every workspace is, in a state that has the workspaces and the groups of
the layout as they were. -/
theorem all_fair_iff
    (hworkspaces : ∀ ws ∈ layout.workspaces, s'.workspaces.lookup ws.id = s.workspaces.lookup ws.id)
    (hgroups : ∀ output, output ∈ s'.workspaceGroups ↔
      output ∈ s.workspaceGroups ∧ output ∈ layout.sortedOutputs) :
    layout.workspaces.all s'.Fair = true ↔ s.FairLayout layout := by
  rw [all_eq_true]
  refine forall₂_congr fun ws hws => ?_
  unfold Fair Misleaves
  rw [hworkspaces ws hws]
  cases hlookup : s.workspaces.lookup ws.id with
  | none => simp
  | some data =>
    have hgroup : (ws.output.bind fun output => s'.workspaceGroups.lookup output).isSome = true ↔
        ∃ output ∈ layout.sortedOutputs, ws.output = some output ∧ output ∈ s.workspaceGroups := by
      cases ws.output with
      | none => simp
      | some output =>
        rw [bind_some, lookup_isSome, hgroups]
        constructor
        · exact fun ⟨hmem, hsorted⟩ => ⟨output, hsorted, rfl, hmem⟩
        · rintro ⟨output', hsorted, heq, hmem⟩
          obtain rfl := some.inj heq
          exact ⟨hmem, hsorted⟩
    simp only [any_some, Bool.not_eq_true', Bool.and_eq_false_iff, decide_eq_false_iff_not,
      not_not, some.injEq, forall_eq']
    rw [← Bool.not_eq_true (Option.isSome (ws.output.bind _)), hgroup, ← Bool.not_eq_true]
    constructor
    · rintro (((hid | hsome) | hout) | hnone) hsome' hid' hout' output hsorted houtput hmem
      · exact hid' hid
      · exact hsome hsome'
      · exact hout' hout
      · exact hnone ⟨output, hsorted, houtput, hmem⟩
    · intro h
      by_cases hid : data.id = ws.name
      · exact Or.inl (Or.inl (Or.inl hid))
      · by_cases hsome : data.id.isSome = true
        · by_cases hout : data.output = ws.output
          · exact Or.inl (Or.inr hout)
          · refine Or.inr ?_
            rintro ⟨output, hsorted, houtput, hmem⟩
            exact h hsome hid hout output hsorted houtput hmem
        · exact Or.inl (Or.inl (Or.inr hsome))

theorem Lists.retainWorkspace (h : s.Lists l) (layout : Layout Output WorkspaceId)
    (id : WorkspaceId) : (s.retainWorkspace layout id).1.Lists l := by
  refine ⟨h.1, fun id' data hlookup => ?_⟩
  obtain ⟨-, heq⟩ := retainWorkspaces_eq layout [id] s false
  have hlookup' := (heq id').symm.trans hlookup
  split at hlookup'
  · cases hlookup'
  · exact h.2 id' data hlookup'

variable {order : List WorkspaceId}

theorem Lists.retainGroup (h : s.Lists l) (layout : Layout Output WorkspaceId) (output : Output) :
    (s.retainGroup layout order output).1.Lists l := by
  have heq : (s.retainGroup layout order output).1.workspaces = s.workspaces :=
    (retainGroups_eq layout order [output] s false).1
  refine ⟨h.1, ?_⟩
  rw [heq]
  exact h.2

theorem Lists.refreshWorkspaceGroup (h : s.Lists l) (managers : List M) (output : Output) :
    (s.refreshWorkspaceGroup managers order output).1.Lists l := by
  have heq : (s.refreshWorkspaceGroup managers order output).1.workspaces = s.workspaces :=
    (refreshWorkspaceGroups_eq managers order [output] s false).1
  refine ⟨h.1, ?_⟩
  rw [heq]
  exact h.2

theorem Follows.manages (h : Follows fair s s' changed) (hmanagers : s.Manages managers) :
    s'.Manages managers := by
  refine ⟨hmanagers.1, fun m => ?_⟩
  rw [h.instances]
  exact hmanagers.2 m

/-- The clients are told that everything was sent. -/
theorem foldl_done (managers : List M) (display : Display M) :
    let display' := managers.foldl (fun display manager => display.send manager .done) display
    display'.nextHandle = display.nextHandle ∧ ∀ m,
      (display'.clients m).pending = (display.clients m).pending ∧
      (display'.clients m).balanced = (display.clients m).balanced ∧
      (m ∈ managers → (display'.clients m).current = (display'.clients m).pending) ∧
      ((display.clients m).current = (display.clients m).pending →
        (display'.clients m).current = (display'.clients m).pending) := by
  induction managers generalizing display with
  | nil => exact ⟨rfl, fun m => ⟨rfl, rfl, nofun, id⟩⟩
  | cons manager managers ih =>
    obtain ⟨hnext, hclients⟩ := ih (display.send manager .done)
    refine ⟨hnext, fun m => ?_⟩
    obtain ⟨hpending, hbalanced, hin, hkeep⟩ := hclients m
    by_cases heq : m = manager
    · subst heq
      have hself : (display.send m .done).clients m = (display.clients m).receive .done :=
        clients_modify_self ..
      rw [hself] at hpending hbalanced hkeep
      refine ⟨hpending, hbalanced.trans (Bool.and_true _), fun _ => hkeep rfl, fun _ => hkeep rfl⟩
    · have hother : (display.send manager .done).clients m = display.clients m :=
        clients_modify_of_ne _ heq _
      rw [hother] at hpending hbalanced hkeep
      exact ⟨hpending, hbalanced, fun hm => hin ((mem_cons.mp hm).resolve_left heq), hkeep⟩

/-- **A refresh**: every client is kept up, every event is balanced where the layout is fair, and
the state has what the layout has. -/
theorem Inv.refresh (h : s.Inv) {order : Order M Output WorkspaceId} (hvalid : order.Valid s layout) :
    (s.refresh layout order).Inv ∧ (s.refresh layout order).instances = s.instances ∧
      (s.refresh layout order).Holds layout ∧
      ∀ m ∈ s.instances, ((s.display.clients m).current = (s.display.clients m).pending →
          ((s.refresh layout order).display.clients m).current =
            ((s.refresh layout order).display.clients m).pending) ∧
        (((s.refresh layout order).display.clients m).balanced = true ↔
          (s.display.clients m).balanced = true ∧ s.FairLayout layout) := by
  -- The workspaces that are gone are removed.
  obtain ⟨hgroups₁, hlookup₁⟩ := retainWorkspaces_eq layout order.workspaces s false
  obtain ⟨hlists₁, hfollows₁⟩ := (Follows.refl h).refreshEach (J := Lists order.workspaces)
    (fun s id hlists hinv => ⟨hlists.retainWorkspace layout id, hinv.retainWorkspace layout id⟩)
    order.workspaces hvalid.lists
  obtain ⟨⟨s₁, c₁⟩, hacc₁⟩ : ∃ acc, acc = refreshEach
    (ExtWorkspaceManagerState.retainWorkspace layout) order.workspaces (s, false) := ⟨_, rfl⟩
  rw [← hacc₁] at hgroups₁ hlookup₁ hlists₁ hfollows₁
  -- The groups that are gone are removed.
  obtain ⟨hworkspaces₂, hlookup₂⟩ := retainGroups_eq layout order.workspaces order.groups s₁ c₁
  obtain ⟨hlists₂, hfollows₂⟩ := hfollows₁.refreshEach (J := Lists order.workspaces)
    (f := ExtWorkspaceManagerState.retainGroup layout order.workspaces)
    (fun s output hlists hinv =>
      ⟨hlists.retainGroup layout output, hinv.retainGroup layout hlists output⟩)
    order.groups hlists₁
  obtain ⟨⟨s₂, c₂⟩, hacc₂⟩ : ∃ acc, acc = refreshEach
    (ExtWorkspaceManagerState.retainGroup layout order.workspaces) order.groups (s₁, c₁) := ⟨_, rfl⟩
  rw [← hacc₂] at hworkspaces₂ hlookup₂ hlists₂ hfollows₂
  -- The workspaces are updated and created.
  obtain ⟨hfollows₃, -, hgroups₃, hkept₃, hdata₃⟩ :=
    refreshWorkspaces_follows layout.nodup hfollows₂ (hfollows₂.manages hvalid.manages)
  obtain ⟨⟨s₃, c₃⟩, hacc₃⟩ : ∃ acc, acc = refreshEach
    (ExtWorkspaceManagerState.refreshWorkspace order.managers) layout.workspaces (s₂, c₂) :=
      ⟨_, rfl⟩
  rw [← hacc₃] at hfollows₃ hgroups₃ hkept₃ hdata₃
  have hids₃ : ∀ id data, s₃.workspaces.lookup id = some data →
      id ∈ layout.workspaces.map LayoutWorkspace.id := by
    intro id data hlookup
    by_contra hnot
    rw [hkept₃ id hnot, hworkspaces₂, hlookup₁] at hlookup
    split at hlookup
    · cases hlookup
    · next hnone => exact hnone ⟨hvalid.lists.2 id data hlookup, hnot⟩
  -- The groups are created.
  have hlists₃ : s₃.Lists order.updated := by
    refine ⟨hvalid.updated.nodup_iff.mpr layout.nodup, fun id data hlookup => ?_⟩
    exact hvalid.updated.mem_iff.mpr (hids₃ id data hlookup)
  obtain ⟨hworkspaces₄, hmem₄⟩ :=
    refreshWorkspaceGroups_eq order.managers order.updated layout.sortedOutputs s₃ c₃
  obtain ⟨-, hfollows₄⟩ := hfollows₃.refreshEach
    (J := fun s => s.Manages order.managers ∧ s.Lists order.updated)
    (f := ExtWorkspaceManagerState.refreshWorkspaceGroup order.managers order.updated)
    (fun s output hJ hinv =>
      have hfollows := hinv.refreshWorkspaceGroup hJ.1 hJ.2 output
      ⟨⟨hfollows.manages hJ.1, hJ.2.refreshWorkspaceGroup order.managers output⟩, hfollows⟩)
    layout.sortedOutputs ⟨hfollows₃.manages hvalid.manages, hlists₃⟩
  obtain ⟨⟨s₄, c₄⟩, hacc₄⟩ : ∃ acc, acc = refreshEach
    (ExtWorkspaceManagerState.refreshWorkspaceGroup order.managers order.updated)
      layout.sortedOutputs (s₃, c₃) := ⟨_, rfl⟩
  rw [← hacc₄] at hworkspaces₄ hmem₄ hfollows₄
  have hrefresh : s.refresh layout order = if c₄ then { s₄ with
      display := order.managers.foldl (fun display manager => display.send manager .done)
        s₄.display } else s₄ := by
    unfold ExtWorkspaceManagerState.refresh
    simp only [← hacc₁, ← hacc₂, ← hacc₃, ← hacc₄]
  -- What there is in the end.
  have hgroups₂ : ∀ output, output ∈ s₂.workspaceGroups ↔
      output ∈ s.workspaceGroups ∧ output ∈ layout.sortedOutputs := by
    intro output
    rw [← lookup_isSome, hlookup₂, hgroups₁]
    by_cases hsorted : output ∈ layout.sortedOutputs
    · rw [if_neg fun h => h.2 hsorted, lookup_isSome, and_iff_left hsorted]
    · refine iff_of_false (fun hsome => ?_) fun h => hsorted h.2
      split at hsome
      · cases hsome
      · next hnone =>
        exact hnone ⟨hvalid.mem_groups (lookup_isSome.mp hsome), hsorted⟩
  have hholds : s₄.Holds layout := by
    constructor
    · intro id x
      unfold content
      rw [hworkspaces₄]
      constructor
      · intro hx
        obtain ⟨data, hlookup, hcontent⟩ := map_eq_some_iff.mp hx
        obtain ⟨ws, hws, rfl⟩ := mem_map.mp (hids₃ id data hlookup)
        obtain ⟨data', hmatches, hlookup'⟩ := hdata₃ ws hws
        obtain rfl := some.inj (hlookup.symm.trans hlookup')
        refine ⟨ws, hws, rfl, ?_⟩
        rw [← hcontent, hmatches.info, hmatches.output]
      · rintro ⟨ws, hws, rfl, rfl⟩
        obtain ⟨data, hmatches, hlookup⟩ := hdata₃ ws hws
        rw [hlookup, map_some, hmatches.info, hmatches.output]
    · intro output
      rw [hmem₄, hgroups₃, hgroups₂]
      exact ⟨fun h => h.elim And.right id, Or.inr⟩
  have hfair : layout.workspaces.all s₂.Fair = true ↔ s.FairLayout layout := by
    refine all_fair_iff (fun ws hws => ?_) hgroups₂
    rw [hworkspaces₂, hlookup₁]
    exact if_neg fun h => h.2 (mem_map.mpr ⟨ws, hws, rfl⟩)
  have hbalanced : ∀ m ∈ s.instances, (s₄.display.clients m).balanced = true ↔
      (s.display.clients m).balanced = true ∧ s.FairLayout layout := by
    intro m hm
    rw [hfollows₄.balanced m hm, Bool.true_and, Bool.and_eq_true, hfair]
  rw [hrefresh]
  cases hchanged : c₄ with
  | false =>
    refine ⟨hfollows₄.inv, hfollows₄.instances, hholds, fun m hm => ⟨?_, hbalanced m hm⟩⟩
    rw [if_neg Bool.false_ne_true, hfollows₄.idle hchanged]
    exact id
  | true =>
    obtain ⟨hnext, hclients⟩ := foldl_done order.managers s₄.display
    refine ⟨⟨?_, hfollows₄.inv.workspaces, hfollows₄.inv.groups, hfollows₄.inv.named⟩,
      hfollows₄.instances, ⟨hholds.workspaces, hholds.groups⟩, fun m hm => ⟨?_, ?_⟩⟩
    · intro m hm
      have hshows := hfollows₄.inv.shows m hm
      simp only [if_true, hnext, (hclients m).1]
      exact hshows
    · exact fun _ => (hclients m).2.2.1 ((hvalid.manages.2 m).mpr hm)
    · rw [← hbalanced m hm]
      exact Bool.eq_iff_iff.mp (hclients m).2.1

/-! ## Binding -/

/-- A manager is being bound, with the workspaces and the groups that are still to come. -/
structure Binding (m : M) (ids : List WorkspaceId) (outputs : List Output)
    (s : ExtWorkspaceManagerState M Output WorkspaceId) : Prop where
  new : m ∉ s.instances
  others : ∀ m' ∈ s.instances, Shows s.display.nextHandle (shownWorkspaces m' s.workspaces)
    (shownGroups m' s.workspaceGroups) (s.display.clients m').pending
  own : Shows s.display.nextHandle (shownWorkspaces m s.workspaces)
    (shownGroups m s.workspaceGroups) (s.display.clients m).pending
  balanced : (s.display.clients m).balanced = true
  workspaces : ∀ id data, s.workspaces.lookup id = some data →
    Owned (if id ∈ ids then s.instances else insert m s.instances) data.instances
  groups : ∀ output data, s.workspaceGroups.lookup output = some data →
    Owned (if output ∈ outputs then s.instances else insert m s.instances) data.instances
  named : ∀ id data, s.workspaces.lookup id = some data → data.Named

/-- The other clients and what the state has are left alone. -/
structure Beside (m : M) (s s' : ExtWorkspaceManagerState M Output WorkspaceId) : Prop where
  instances : s'.instances = s.instances
  clients : ∀ m', m' ≠ m → s'.display.clients m' = s.display.clients m'
  content : ∀ id, s'.content id = s.content id
  groups : ∀ output, output ∈ s'.workspaceGroups ↔ output ∈ s.workspaceGroups

section

omit [DecidableEq M] [DecidableEq Output]

theorem Beside.refl (m : M) (s : ExtWorkspaceManagerState M Output WorkspaceId) : Beside m s s where
  instances := rfl
  clients _ _ := rfl
  content _ := rfl
  groups _ := Iff.rfl

theorem Beside.trans {s'' : ExtWorkspaceManagerState M Output WorkspaceId} (h : Beside m s s')
    (h' : Beside m s' s'') : Beside m s s'' where
  instances := h'.instances.trans h.instances
  clients m' hne := (h'.clients m' hne).trans (h.clients m' hne)
  content id := (h'.content id).trans (h.content id)
  groups output := (h'.groups output).trans (h.groups output)

end

/-- The new workspaces are those that the new client is shown, by their outputs. -/
def NewWorkspaces (m : M) (newWorkspaces : HashMap Output (List (Handle M)))
    (s : ExtWorkspaceManagerState M Output WorkspaceId) : Prop :=
  ∀ output, (((newWorkspaces.lookup output).getD []).map Handle.id).Nodup ∧
    ∀ handle, handle ∈ ((newWorkspaces.lookup output).getD []).map Handle.id ↔
      ∃ id e, shownWorkspaces m s.workspaces id = some e ∧ e.handle = handle ∧
        e.output = some output

variable {ids : List WorkspaceId}

/-- **A workspace** is introduced to the new client. -/
theorem Binding.bindWorkspace {id : WorkspaceId} (h : Binding m (id :: ids) outputs s)
    (hid : id ∉ ids) (hnone : ∀ output, shownGroups m s.workspaceGroups output = none)
    (hnew : NewWorkspaces m newWorkspaces s) :
    let r := ExtWorkspaceManagerState.bindWorkspace m (s, newWorkspaces) id
    Binding m ids outputs r.1 ∧ Beside m s r.1 ∧ r.1.workspaceGroups = s.workspaceGroups ∧
      NewWorkspaces m r.2 r.1 := by
  unfold ExtWorkspaceManagerState.bindWorkspace
  cases hlookup : s.workspaces.lookup id with
  | none =>
    refine ⟨{ h with workspaces := fun id' data hlookup' => ?_ }, Beside.refl m s, rfl, hnew⟩
    have howned := h.workspaces id' data hlookup'
    have hne : id' ≠ id := by
      rintro rfl
      rw [hlookup] at hlookup'
      cases hlookup'
    simpa [hne] using howned
  | some data =>
    have howned : Owned s.instances data.instances := by
      have howned := h.workspaces id data hlookup
      rwa [if_pos (mem_cons_self ..)] at howned
    have hunseen : m ∉ data.instances.map Handle.manager := fun hm =>
      h.new ((howned.mem_iff m).mp hm)
    obtain ⟨hnext, hself, hother⟩ := data.addInstance_spec s.display m
    let handle : Handle M := ⟨s.display.nextHandle, m⟩
    let data' : WorkspaceData M Output := { data with instances := data.instances ++ [handle] }
    have hhandle : ∀ m', handleOf m' data'.instances =
        if m = m' then some s.display.nextHandle else handleOf m' data.instances :=
      fun m' => handleOf_append handle hunseen
    have hunshown : shownWorkspaces m s.workspaces id = none := by
      unfold shownWorkspaces WorkspaceData.entry
      rw [hlookup, bind_some, handleOf_eq_none hunseen]
      rfl
    have hother' : ∀ m', m' ≠ m →
        shownWorkspaces m' (s.workspaces.insert id data') = shownWorkspaces m' s.workspaces := by
      intro m' hne
      have hentry : data'.entry m' = shownWorkspaces m' s.workspaces id := by
        unfold shownWorkspaces WorkspaceData.entry
        rw [hlookup, hhandle, if_neg fun heq => hne heq.symm]
        rfl
      rw [shownWorkspaces_insert, hentry, update_eq_self]
    have hself' : shownWorkspaces m (s.workspaces.insert id data') =
        update (shownWorkspaces m s.workspaces) id
          (some ⟨s.display.nextHandle, data.info, data.output⟩) := by
      have hentry : data'.entry m = some ⟨s.display.nextHandle, data.info, data.output⟩ := by
        unfold WorkspaceData.entry
        rw [hhandle, if_pos rfl]
        rfl
      rw [shownWorkspaces_insert, hentry]
    have hbind : ∀ output : Option Output,
        output.bind (shownGroups m s.workspaceGroups) = none := by
      intro output
      cases output with
      | none => rfl
      | some output => exact hnone output
    refine ⟨⟨h.new, ?_, ?_, ?_, ?_, h.groups, ?_⟩, ⟨rfl, hother, ?_, fun _ => Iff.rfl⟩, rfl, ?_⟩
    · intro m' hm'
      have hne : m' ≠ m := by
        rintro rfl
        exact h.new hm'
      show Shows (data.addInstance s.display m).2.2.nextHandle
        (shownWorkspaces m' (s.workspaces.insert id data')) _
        ((data.addInstance s.display m).2.2.clients m').pending
      rw [hother' m' hne, hother m' hne, hnext]
      exact (h.others m' hm').mono (le_succ _)
    · show Shows (data.addInstance s.display m).2.2.nextHandle
        (shownWorkspaces m (s.workspaces.insert id data')) _
        ((data.addInstance s.display m).2.2.clients m).pending
      rw [hself', hself, hnext]
      exact h.own.introduce hunshown (hbind data.output) (le_refl _) (lt_succ_self _) data.id
        data.name data.coordinates data.state
    · show ((data.addInstance s.display m).2.2.clients m).balanced = true
      rw [hself, (Client.introduce_frame ..).2]
      exact h.balanced
    · intro id' data₁ hlookup'
      by_cases heq : id' = id
      · rw [heq, lookup_insert] at hlookup'
        obtain rfl := some.inj hlookup'
        rw [heq, if_neg hid]
        exact howned.append h.new _
      · rw [lookup_insert_of_ne _ heq] at hlookup'
        have howned := h.workspaces id' data₁ hlookup'
        simpa [heq] using howned
    · intro id' data₁ hlookup'
      by_cases heq : id' = id
      · rw [heq, lookup_insert] at hlookup'
        obtain rfl := some.inj hlookup'
        exact h.named id data hlookup
      · rw [lookup_insert_of_ne _ heq] at hlookup'
        exact h.named id' data₁ hlookup'
    · intro id'
      show ((s.workspaces.insert id data').lookup id').map _ = _
      unfold content
      by_cases heq : id' = id
      · rw [heq, lookup_insert, hlookup]
        rfl
      · rw [lookup_insert_of_ne _ heq]
    · intro output
      have hiff : ∀ h', (∃ id' e, shownWorkspaces m (s.workspaces.insert id data') id' = some e ∧
          e.handle = h' ∧ e.output = some output) ↔
          (s.display.nextHandle = h' ∧ data.output = some output) ∨
            h' ∈ ((newWorkspaces.lookup output).getD []).map Handle.id := by
        intro h'
        rw [hself', exists_added_iff hunshown, (hnew output).2]
      have hfresh : s.display.nextHandle ∉
          ((newWorkspaces.lookup output).getD []).map Handle.id := by
        rw [(hnew output).2]
        rintro ⟨id', e, he, hhandle', -⟩
        have hlt := h.own.handle_lt id' e he
        omega
      have hlisted : ∀ l : List ℕ, l = ((newWorkspaces.lookup output).getD []).map Handle.id ++
          (if data.output = some output then [s.display.nextHandle] else []) → l.Nodup ∧
            ∀ h', h' ∈ l ↔ (s.display.nextHandle = h' ∧ data.output = some output) ∨
              h' ∈ ((newWorkspaces.lookup output).getD []).map Handle.id := by
        rintro l rfl
        refine ⟨?_, fun h' => ?_⟩
        · split
          · rw [nodup_append]
            refine ⟨(hnew output).1, nodup_singleton _, ?_⟩
            intro h' hh' h'' hh'' heq
            rw [mem_singleton.mp hh''] at heq
            exact hfresh (heq ▸ hh')
          · rw [append_nil]
            exact (hnew output).1
        · rw [mem_append, or_comm]
          refine or_congr_left ?_
          split
          · next hout => simp [hout, eq_comm]
          · next hout => simp [hout]
      refine (hlisted _ ?_).imp_right fun hmem h' => (hmem h').trans (hiff h').symm
      dsimp only
      rw [show (data.addInstance s.display m).2.1.output = data.output from rfl]
      cases hout : data.output with
      | none => simp
      | some o =>
        by_cases heq : output = o
        · subst heq
          rw [lookup_insert, if_pos rfl]
          exact map_append
        · have hne : ¬ some o = some output := fun h => heq (some.inj h).symm
          rw [lookup_insert_of_ne _ heq, if_neg hne, append_nil]

/-- **A group** is shown to the new client, with the workspaces that are in it. -/
theorem Binding.bindGroup {output : Output} (h : Binding m [] (output :: outputs) s)
    (houtput : output ∉ outputs) (hnew : NewWorkspaces m newWorkspaces s) :
    Binding m [] outputs (s.bindGroup m newWorkspaces output) ∧
      Beside m s (s.bindGroup m newWorkspaces output) ∧
      (s.bindGroup m newWorkspaces output).workspaces = s.workspaces := by
  unfold ExtWorkspaceManagerState.bindGroup
  cases hlookup : s.workspaceGroups.lookup output with
  | none =>
    refine ⟨{ h with groups := fun output' data hlookup' => ?_ }, Beside.refl m s, rfl⟩
    have howned := h.groups output' data hlookup'
    have hne : output' ≠ output := by
      rintro rfl
      rw [hlookup] at hlookup'
      cases hlookup'
    simpa [hne] using howned
  | some data =>
    have howned : Owned s.instances data.instances := by
      have howned := h.groups output data hlookup
      rwa [if_pos (mem_cons_self ..)] at howned
    have hunseen : m ∉ data.instances.map Handle.manager := fun hm =>
      h.new ((howned.mem_iff m).mp hm)
    let handle : Handle M := ⟨s.display.nextHandle, m⟩
    let data' : GroupData M := { data with instances := data.instances ++ [handle] }
    let display := (data.addInstance s.display m).2.2
    let l := (newWorkspaces.lookup output).getD []
    have hself : display.clients m =
        (s.display.clients m).receive (.workspaceGroup s.display.nextHandle) :=
      update_self ..
    have hloop : l.foldl (fun display workspace =>
        display.send m (.workspaceEnter s.display.nextHandle workspace.id)) display =
        display.modify m fun c => l.foldl (fun c workspace =>
          c.receive (.workspaceEnter s.display.nextHandle workspace.id)) c :=
      foldl_send (fun workspace : Handle M =>
        .workspaceEnter s.display.nextHandle workspace.id) _ _ _
    have hhandle : ∀ m', handleOf m' data'.instances =
        if m = m' then some s.display.nextHandle else handleOf m' data.instances :=
      fun m' => handleOf_append handle hunseen
    have hunshown : shownGroups m s.workspaceGroups output = none := by
      unfold shownGroups
      rw [hlookup, bind_some, handleOf_eq_none hunseen]
    have hother' : ∀ m', m' ≠ m → shownGroups m' (s.workspaceGroups.insert output data') =
        shownGroups m' s.workspaceGroups := by
      intro m' hne
      have hsame : handleOf m' data'.instances = shownGroups m' s.workspaceGroups output := by
        unfold shownGroups
        rw [hlookup, hhandle, if_neg fun heq => hne heq.symm]
        rfl
      rw [shownGroups_insert, hsame, update_eq_self]
    obtain ⟨hworkspaces, hgroups, -, hmembers, hbalanced⟩ := Client.foldl_enter Handle.id
      s.display.nextHandle l (display.clients m)
    have hclient : ∀ m', m' ≠ m → (display.modify m fun c => l.foldl (fun c workspace =>
        c.receive (.workspaceEnter s.display.nextHandle workspace.id)) c).clients m' =
          s.display.clients m' := by
      intro m' hne
      rw [clients_modify_of_ne _ hne]
      exact update_of_ne hne ..
    show Binding m [] outputs { s with
        display := l.foldl (fun display workspace =>
          display.send m (.workspaceEnter s.display.nextHandle workspace.id)) display
        workspaceGroups := s.workspaceGroups.insert output data' } ∧
      Beside m s { s with
        display := l.foldl (fun display workspace =>
          display.send m (.workspaceEnter s.display.nextHandle workspace.id)) display
        workspaceGroups := s.workspaceGroups.insert output data' } ∧ _
    rw [hloop]
    refine ⟨⟨h.new, ?_, ?_, ?_, h.workspaces, ?_, h.named⟩, ⟨rfl, hclient, fun _ => rfl, ?_⟩, rfl⟩
    · intro m' hm'
      have hne : m' ≠ m := by
        rintro rfl
        exact h.new hm'
      simp only [hclient m' hne, hother' m' hne]
      exact (h.others m' hm').mono (le_succ _)
    · simp only [clients_modify_self, shownGroups_insert, hhandle, if_true]
      refine h.own.showGroup hunshown (hself ▸ hgroups) (hself ▸ hworkspaces) ?_ (lt_succ_self _)
      intro g h'
      refine (hmembers g h').trans ?_
      rw [hself]
      exact or_congr_right (and_congr_right fun _ => (hnew output).2 h')
    · simp only [clients_modify_self]
      refine (hbalanced (hnew output).1 ?_).trans ?_
      · intro h' _ hmem
        rw [hself] at hmem
        obtain ⟨id, e, -, -, hout⟩ := (h.own.members_iff _ h').mp hmem
        obtain ⟨output', -, hgroup⟩ := bind_eq_some_iff.mp hout
        exact lt_irrefl _ (h.own.group_lt output' _ hgroup)
      · rw [hself]
        exact (Bool.and_true _).trans h.balanced
    · intro output' data₁ hlookup'
      by_cases heq : output' = output
      · rw [heq, lookup_insert] at hlookup'
        obtain rfl := some.inj hlookup'
        rw [heq, if_neg houtput]
        exact howned.append h.new _
      · rw [lookup_insert_of_ne _ heq] at hlookup'
        have howned := h.groups output' data₁ hlookup'
        simpa [heq] using howned
    · intro output'
      rw [mem_insert]
      refine or_iff_right_of_imp ?_
      rintro rfl
      exact mem_of_lookup_eq_some hlookup

/-- The loop over the workspaces. -/
theorem Binding.bindWorkspaces (hnodup : ids.Nodup) (h : Binding m ids outputs s)
    (hnone : ∀ output, shownGroups m s.workspaceGroups output = none)
    (hnew : NewWorkspaces m newWorkspaces s) :
    let r := ids.foldl (ExtWorkspaceManagerState.bindWorkspace m) (s, newWorkspaces)
    Binding m [] outputs r.1 ∧ Beside m s r.1 ∧ NewWorkspaces m r.2 r.1 := by
  induction ids generalizing s newWorkspaces with
  | nil => exact ⟨h, Beside.refl m s, hnew⟩
  | cons id ids ih =>
    rw [nodup_cons] at hnodup
    obtain ⟨hbinding, hbeside, hgroups, hnew'⟩ := h.bindWorkspace hnodup.1 hnone hnew
    obtain ⟨hbinding', hbeside', hnew''⟩ := ih hnodup.2 hbinding (by rwa [hgroups]) hnew'
    exact ⟨hbinding', hbeside.trans hbeside', hnew''⟩

/-- The loop over the groups. -/
theorem Binding.bindGroups (hnodup : outputs.Nodup) (h : Binding m [] outputs s)
    (hnew : NewWorkspaces m newWorkspaces s) :
    Binding m [] [] (outputs.foldl (ExtWorkspaceManagerState.bindGroup m newWorkspaces) s) ∧
      Beside m s (outputs.foldl (ExtWorkspaceManagerState.bindGroup m newWorkspaces) s) := by
  induction outputs generalizing s with
  | nil => exact ⟨h, Beside.refl m s⟩
  | cons output outputs ih =>
    rw [nodup_cons] at hnodup
    obtain ⟨hbinding, hbeside, hworkspaces⟩ := h.bindGroup hnodup.1 hnew
    have hnew' : NewWorkspaces m newWorkspaces (s.bindGroup m newWorkspaces output) := by
      unfold NewWorkspaces
      rw [hworkspaces]
      exact hnew
    obtain ⟨hbinding', hbeside'⟩ := ih hnodup.2 hbinding hnew'
    exact ⟨hbinding', hbeside.trans hbeside'⟩

omit [DecidableEq M] [DecidableEq Output] in
theorem Holds.congr (h : s.Holds layout) (hcontent : ∀ id, s'.content id = s.content id)
    (hgroups : ∀ output, output ∈ s'.workspaceGroups ↔ output ∈ s.workspaceGroups) :
    s'.Holds layout where
  workspaces id x := by
    rw [hcontent]
    exact h.workspaces id x
  groups output := (hgroups output).trans (h.groups output)

/-- **Binding**: the new client sees what the state has, and nothing changes for the others. -/
theorem Inv.bind (h : s.Inv) (hm : m ∉ s.instances) {workspaces : List WorkspaceId}
    (hworkspaces : s.Lists workspaces) {groups : List Output} (hnodup : groups.Nodup)
    (hgroups : ∀ output, output ∈ s.workspaceGroups → output ∈ groups) :
    (s.bind m workspaces groups).Inv ∧
      (s.bind m workspaces groups).instances = insert m s.instances ∧
      (∀ m', m' ≠ m → (s.bind m workspaces groups).display.clients m' = s.display.clients m') ∧
      ((s.bind m workspaces groups).display.clients m).current =
        ((s.bind m workspaces groups).display.clients m).pending ∧
      ((s.bind m workspaces groups).display.clients m).balanced = true ∧
      ∀ layout, s.Holds layout → (s.bind m workspaces groups).Holds layout := by
  let display := s.display.modify m fun _ => Client.new
  let s₀ : ExtWorkspaceManagerState M Output WorkspaceId := { s with display }
  have hself : display.clients m = Client.new := clients_modify_self ..
  have hother : ∀ m', m' ≠ m → display.clients m' = s.display.clients m' :=
    fun m' hne => clients_modify_of_ne _ hne _
  have hne : ∀ m' ∈ s.instances, m' ≠ m := by
    rintro m' hm' rfl
    exact hm hm'
  have hnoWorkspaces : shownWorkspaces m s.workspaces = fun _ => none := by
    funext id
    unfold shownWorkspaces
    cases hlookup : s.workspaces.lookup id with
    | none => rfl
    | some data =>
      have hunseen := fun hmem => hm (((h.workspaces id data hlookup).mem_iff m).mp hmem)
      unfold WorkspaceData.entry
      rw [bind_some, handleOf_eq_none hunseen]
      rfl
  have hnoGroups : shownGroups m s.workspaceGroups = fun _ => none := by
    funext output
    unfold shownGroups
    cases hlookup : s.workspaceGroups.lookup output with
    | none => rfl
    | some data =>
      have hunseen := fun hmem => hm (((h.groups output data hlookup).mem_iff m).mp hmem)
      exact handleOf_eq_none hunseen
  have hstart : Binding m workspaces groups s₀ := by
    refine ⟨hm, ?_, ?_, ?_, ?_, ?_, h.named⟩
    · intro m' hm'
      show Shows _ _ _ (display.clients m').pending
      rw [hother m' (hne m' hm')]
      exact h.shows m' hm'
    · show Shows _ (shownWorkspaces m s.workspaces) (shownGroups m s.workspaceGroups)
        (display.clients m).pending
      rw [hnoWorkspaces, hnoGroups, hself]
      exact shows_new
    · exact congrArg Client.balanced hself
    · intro id data hlookup
      rw [if_pos (hworkspaces.2 id data hlookup)]
      exact h.workspaces id data hlookup
    · intro output data hlookup
      rw [if_pos (hgroups output (mem_of_lookup_eq_some hlookup))]
      exact h.groups output data hlookup
  have hnew : NewWorkspaces m (∅ : HashMap Output (List (Handle M))) s₀ := by
    intro output
    refine ⟨nodup_nil, fun handle => iff_of_false (not_mem_nil) ?_⟩
    rintro ⟨id, e, he, -⟩
    have hnone := congrFun hnoWorkspaces id
    rw [show shownWorkspaces m s.workspaces id = some e from he] at hnone
    cases hnone
  obtain ⟨hbinding₁, hbeside₁, hnew₁⟩ :=
    hstart.bindWorkspaces hworkspaces.1 (congrFun hnoGroups) hnew
  obtain ⟨⟨s₁, newWorkspaces⟩, hacc⟩ : ∃ acc, acc =
    workspaces.foldl (ExtWorkspaceManagerState.bindWorkspace m) (s₀, ∅) := ⟨_, rfl⟩
  rw [← hacc] at hbinding₁ hbeside₁ hnew₁
  obtain ⟨hbinding₂, hbeside₂⟩ := hbinding₁.bindGroups hnodup hnew₁
  obtain ⟨s₂, hs₂⟩ : ∃ s₂, s₂ =
    groups.foldl (ExtWorkspaceManagerState.bindGroup m newWorkspaces) s₁ := ⟨_, rfl⟩
  rw [← hs₂] at hbinding₂ hbeside₂
  have hbeside := hbeside₁.trans hbeside₂
  have hbind : s.bind m workspaces groups = { s₂ with
      display := s₂.display.send m .done
      instances := insert m s₂.instances } := by
    rw [hs₂]
    show (let acc := workspaces.foldl (ExtWorkspaceManagerState.bindWorkspace m) (s₀, ∅)
      ({ (groups.foldl (ExtWorkspaceManagerState.bindGroup m acc.2) acc.1) with
        display := _
        instances := _ } : ExtWorkspaceManagerState M Output WorkspaceId)) = _
    rw [← hacc]
  have hinstances : s₂.instances = s.instances := hbeside.instances
  have hdone : (s₂.display.send m .done).clients m = (s₂.display.clients m).receive .done :=
    clients_modify_self ..
  have hdoneOther : ∀ m', m' ≠ m →
      (s₂.display.send m .done).clients m' = s₂.display.clients m' :=
    fun m' hne => clients_modify_of_ne _ hne _
  rw [hbind, hinstances]
  refine ⟨⟨?_, ?_, ?_, hbinding₂.named⟩, rfl, ?_, ?_, ?_, ?_⟩
  · intro m' hm'
    rcases Finset.mem_insert.mp hm' with rfl | hm'
    · show Shows _ _ _ ((s₂.display.send m' .done).clients m').pending
      rw [hdone]
      exact hbinding₂.own
    · show Shows _ _ _ ((s₂.display.send m .done).clients m').pending
      rw [hdoneOther m' (hne m' hm')]
      exact hbinding₂.others m' (hinstances ▸ hm')
  · exact fun id data hlookup => hinstances ▸ hbinding₂.workspaces id data hlookup
  · exact fun output data hlookup => hinstances ▸ hbinding₂.groups output data hlookup
  · intro m' hne'
    show (s₂.display.send m .done).clients m' = _
    rw [hdoneOther m' hne', hbeside.clients m' hne', hother m' hne']
  · show ((s₂.display.send m .done).clients m).current = ((s₂.display.send m .done).clients m).pending
    rw [hdone]
    rfl
  · show ((s₂.display.send m .done).clients m).balanced = true
    rw [hdone]
    exact (Bool.and_true _).trans hbinding₂.balanced
  · exact fun layout hholds => hholds.congr hbeside.content hbeside.groups

/-! ## Stopping -/

section

omit [DecidableEq Output] [DecidableEq WorkspaceId]

variable {instances : List (Handle M)}

theorem handleOf_filter {m' : M} (hne : m' ≠ m) :
    handleOf m' (instances.filter fun handle => handle.manager ≠ m) = handleOf m' instances := by
  unfold handleOf instancesOf
  rw [filter_filter]
  have heq : ∀ handle : Handle M, (decide (handle.manager = m') && decide (handle.manager ≠ m)) =
        decide (handle.manager = m') := by
    intro handle
    by_cases hm' : handle.manager = m'
    · simp [hm', hne]
    · simp [hm']
  simp only [heq]

theorem owned_filter {managers : Finset M} (h : Owned managers instances) (m : M) :
    Owned (managers.erase m) (instances.filter fun handle => handle.manager ≠ m) := by
  have hmap : (instances.filter fun handle => handle.manager ≠ m).map Handle.manager =
      (instances.map Handle.manager).filter fun m' => m' ≠ m := by
    rw [filter_map]
    rfl
  constructor
  · rw [hmap]
    exact h.nodup.filter _
  · intro m'
    rw [hmap, mem_filter, h.mem_iff, Finset.mem_erase, and_comm, decide_eq_true_eq]

end

/-- **Stopping**: nothing changes for the other clients. -/
theorem Inv.stop (h : s.Inv) (m : M) :
    (s.stop m).Inv ∧ ∀ layout, s.Holds layout → (s.stop m).Holds layout := by
  have hshownWorkspaces : ∀ m', m' ≠ m →
      shownWorkspaces m' (s.stop m).workspaces = shownWorkspaces m' s.workspaces := by
    intro m' hne
    funext id
    unfold shownWorkspaces ExtWorkspaceManagerState.stop
    rw [lookup_mapValues]
    cases s.workspaces.lookup id with
    | none => rfl
    | some data =>
      show (handleOf m' _).map _ = (handleOf m' _).map _
      rw [handleOf_filter hne]
      rfl
  have hshownGroups : ∀ m', m' ≠ m →
      shownGroups m' (s.stop m).workspaceGroups = shownGroups m' s.workspaceGroups := by
    intro m' hne
    funext output
    unfold shownGroups ExtWorkspaceManagerState.stop
    rw [lookup_mapValues]
    cases s.workspaceGroups.lookup output with
    | none => rfl
    | some data => exact handleOf_filter hne
  refine ⟨⟨?_, ?_, ?_, ?_⟩, fun layout hholds => hholds.congr ?_ ?_⟩
  · intro m' hm'
    obtain ⟨hne, hm'⟩ := Finset.mem_erase.mp hm'
    rw [hshownWorkspaces m' hne, hshownGroups m' hne]
    exact h.shows m' hm'
  · intro id data hlookup
    obtain ⟨data', hlookup', rfl⟩ :=
      map_eq_some_iff.mp ((lookup_mapValues _ _ _).symm.trans hlookup)
    exact owned_filter (h.workspaces id data' hlookup') m
  · intro output data hlookup
    obtain ⟨data', hlookup', rfl⟩ :=
      map_eq_some_iff.mp ((lookup_mapValues _ _ _).symm.trans hlookup)
    exact owned_filter (h.groups output data' hlookup') m
  · intro id data hlookup
    obtain ⟨data', hlookup', rfl⟩ :=
      map_eq_some_iff.mp ((lookup_mapValues _ _ _).symm.trans hlookup)
    exact h.named id data' hlookup'
  · intro id
    unfold content ExtWorkspaceManagerState.stop
    rw [lookup_mapValues, Option.map_map]
    rfl
  · intro output
    unfold ExtWorkspaceManagerState.stop
    rw [← lookup_isSome, ← lookup_isSome, lookup_mapValues, isSome_map]

/-! ## The view of a client -/

/-- The handle that the client of the manager has of a workspace. -/
def workspaceHandle (s : ExtWorkspaceManagerState M Output WorkspaceId) (m : M)
    (id : WorkspaceId) : ℕ :=
  ((shownWorkspaces m s.workspaces id).map Entry.handle).getD 0

/-- The handle that the client of the manager has of a group. -/
def groupHandle (s : ExtWorkspaceManagerState M Output WorkspaceId) (m : M) (output : Output) : ℕ :=
  (shownGroups m s.workspaceGroups output).getD 0

/-- **What every client sees is what the layout has.** -/
theorem Inv.mirrors (h : s.Inv) (hholds : s.Holds layout) (hm : m ∈ s.instances) :
    Mirrors layout (s.workspaceHandle m) (s.groupHandle m) (s.display.clients m).pending := by
  have hshows := h.shows m hm
  -- A workspace of the layout is shown, and what is shown is a workspace of the layout.
  have hshown : ∀ ws ∈ layout.workspaces, shownWorkspaces m s.workspaces ws.id =
      some ⟨s.workspaceHandle m ws.id, ws.info, ws.output⟩ := by
    intro ws hws
    obtain ⟨data, hlookup, hcontent⟩ :=
      map_eq_some_iff.mp ((hholds.workspaces ws.id _).mpr ⟨ws, hws, rfl, rfl⟩)
    obtain ⟨handle, -, hentry⟩ := h.entry hm hlookup
    obtain ⟨hinfo, houtput⟩ := Prod.mk.inj hcontent
    unfold workspaceHandle
    rw [hentry, hinfo, houtput]
    rfl
  have hlayout : ∀ id e, shownWorkspaces m s.workspaces id = some e →
      ∃ ws ∈ layout.workspaces, ws.id = id ∧
        e = ⟨s.workspaceHandle m ws.id, ws.info, ws.output⟩ := by
    intro id e he
    obtain ⟨data, hlookup, -⟩ := bind_eq_some_iff.mp he
    obtain ⟨ws, hws, rfl, -⟩ := (hholds.workspaces id (data.info, data.output)).mp (by
      unfold content
      rw [hlookup]
      rfl)
    exact ⟨ws, hws, rfl, some.inj (he.symm.trans (hshown ws hws))⟩
  have hgroup : ∀ output g, shownGroups m s.workspaceGroups output = some g ↔
      output ∈ layout.sortedOutputs ∧ s.groupHandle m output = g := by
    intro output g
    rw [← hholds.groups]
    unfold groupHandle
    constructor
    · intro hg
      obtain ⟨data, hlookup, -⟩ := bind_eq_some_iff.mp hg
      rw [hg]
      exact ⟨mem_of_lookup_eq_some hlookup, rfl⟩
    · rintro ⟨hmem, rfl⟩
      obtain ⟨data, hlookup⟩ := mem_iff.mp hmem
      obtain ⟨handle, -, hg⟩ := h.group hm hlookup
      rw [hg]
      rfl
  constructor
  · intro handle info
    rw [hshows.workspaces_iff]
    constructor
    · rintro ⟨id, e, he, rfl, rfl⟩
      obtain ⟨ws, hws, -, rfl⟩ := hlayout id e he
      exact ⟨ws, hws, rfl, rfl⟩
    · rintro ⟨ws, hws, rfl, rfl⟩
      exact ⟨ws.id, _, hshown ws hws, rfl, rfl⟩
  · intro g
    rw [hshows.groups_iff]
    exact exists_congr fun output => hgroup output g
  · intro g handle
    rw [hshows.members_iff]
    constructor
    · rintro ⟨id, e, he, rfl, hout⟩
      obtain ⟨ws, hws, -, rfl⟩ := hlayout id e he
      obtain ⟨output, houtput, hg⟩ := bind_eq_some_iff.mp hout
      obtain ⟨hmem, hg⟩ := (hgroup output g).mp hg
      exact ⟨ws, hws, output, hmem, houtput, hg, rfl⟩
    · rintro ⟨ws, hws, output, hmem, houtput, rfl, rfl⟩
      refine ⟨ws.id, _, hshown ws hws, rfl, ?_⟩
      rw [houtput]
      exact (hgroup output _).mpr ⟨hmem, rfl⟩
  · intro ws hws ws' hws' heq
    exact hshows.handle_inj _ _ _ _ (hshown ws hws) (hshown ws' hws') heq
  · intro output hmem output' hmem' heq
    exact hshows.group_inj output output' (s.groupHandle m output)
      ((hgroup output _).mpr ⟨hmem, rfl⟩) ((hgroup output' _).mpr ⟨hmem', heq.symm⟩)

end ExtWorkspaceManagerState

/-! ## Runs -/

/-- A workspace that had a name gets another one, or loses it, and moves at once to another output,
that was there before. -/
def RenamesAndMoves (before layout : Layout Output WorkspaceId) : Prop :=
  ∃ old ∈ before.workspaces, ∃ ws ∈ layout.workspaces, old.id = ws.id ∧
    old.name.isSome = true ∧ old.name ≠ ws.name ∧ old.output ≠ ws.output ∧
    ∃ output, ws.output = some output ∧ output ∈ before.sortedOutputs ∧
      output ∈ layout.sortedOutputs

namespace World

variable {w w' : World M Output WorkspaceId}

/-- Every client that has bound a manager mirrors the layout, and every event that it got was
balanced. -/
def Mirrored (w : World M Output WorkspaceId) : Prop :=
  ∀ m ∈ w.state.instances, (w.state.display.clients m).balanced = true ∧
    Mirrors w.layout (w.state.workspaceHandle m) (w.state.groupHandle m)
      (w.state.display.clients m).current

/-- A client gets an event that is not balanced. -/
def Misleads (w : World M Output WorkspaceId) : Step M Output WorkspaceId → Prop
  | .refresh layout _ => w.state.instances.Nonempty ∧ RenamesAndMoves w.layout layout
  | _ => False

/-- The state has what the layout has, and the clients see it. -/
structure Kept (w : World M Output WorkspaceId) : Prop where
  inv : w.state.Inv
  holds : w.state.Holds w.layout
  current : ∀ m ∈ w.state.instances,
    (w.state.display.clients m).current = (w.state.display.clients m).pending

theorem Kept.mirrors (h : w.Kept) {m : M} (hm : m ∈ w.state.instances) :
    Mirrors w.layout (w.state.workspaceHandle m) (w.state.groupHandle m)
      (w.state.display.clients m).current := by
  rw [h.current m hm]
  exact h.inv.mirrors h.holds hm

/-- Where the state has what the layout had, the next layout is fair unless a workspace is renamed
and moved. -/
theorem Kept.fairLayout_iff (h : w.Kept) (layout : Layout Output WorkspaceId) :
    w.state.FairLayout layout ↔ ¬ RenamesAndMoves w.layout layout := by
  constructor
  · rintro hfair ⟨old, hold, ws, hws, hid, hsome, hname, hout, output, houtput, hbefore, hsorted⟩
    obtain ⟨data, hlookup, hcontent⟩ :=
      map_eq_some_iff.mp ((h.holds.workspaces ws.id _).mpr ⟨old, hold, hid, rfl⟩)
    obtain ⟨hinfo, hsame⟩ := Prod.mk.inj hcontent
    have hdata : data.id = old.name := congrArg Info.id hinfo
    refine hfair ws hws data hlookup (hdata ▸ hsome) (hdata ▸ hname) (hsame ▸ hout) output hsorted
      houtput ?_
    exact (h.holds.groups output).mpr hbefore
  · intro hnot ws hws data hlookup hsome hname hout output hsorted houtput hmem
    obtain ⟨old, hold, hid, hcontent⟩ :=
      (h.holds.workspaces ws.id (data.info, data.output)).mp (by
        unfold ExtWorkspaceManagerState.content
        rw [hlookup]
        rfl)
    obtain ⟨hinfo, hsame⟩ := Prod.mk.inj hcontent
    have hdata : data.id = old.name := (congrArg Info.id hinfo).symm
    refine hnot ⟨old, hold, ws, hws, hid, hdata ▸ hsome, hdata ▸ hname, hsame ▸ hout, output,
      houtput, ?_, hsorted⟩
    exact (h.holds.groups output).mp hmem

theorem start_kept : (start : World M Output WorkspaceId).Kept := by
  refine ⟨⟨?_, ?_, ?_, ?_⟩, ⟨?_, ?_⟩, ?_⟩
  · exact fun m hm => absurd hm (Finset.notMem_empty m)
  · intro id data hlookup
    cases hlookup
  · intro output data hlookup
    cases hlookup
  · intro id data hlookup
    cases hlookup
  · intro id x
    refine iff_of_false (fun hx => ?_) ?_
    · obtain ⟨data, hlookup, -⟩ := map_eq_some_iff.mp hx
      cases hlookup
    · rintro ⟨ws, hws, -⟩
      exact not_mem_nil hws
  · exact fun output => iff_of_false notMem_empty not_mem_nil
  · exact fun m hm => absurd hm (Finset.notMem_empty m)

/-- What a step keeps, and what it does to the balance of the clients. -/
theorem Kept.step (h : w.Kept) {e : Step M Output WorkspaceId} (hstep : w.step e = some w') :
    w'.Kept ∧ ((∀ m ∈ w.state.instances, (w.state.display.clients m).balanced = true) →
      ((∀ m ∈ w'.state.instances, (w'.state.display.clients m).balanced = true) ↔
        ¬ w.Misleads e)) := by
  cases e with
  | refresh layout order =>
    obtain ⟨hvalid, rfl⟩ := ite_some_none_eq_some.mp hstep
    obtain ⟨hinv, hinstances, hholds, hclients⟩ := h.inv.refresh hvalid
    refine ⟨⟨hinv, hholds, ?_⟩, ?_⟩
    · intro m hm
      have hm : m ∈ w.state.instances := hinstances ▸ hm
      exact (hclients m hm).1 (h.current m hm)
    · intro hbalanced
      show (∀ m ∈ (w.state.refresh layout order).instances, _) ↔ ¬ (_ ∧ _)
      rw [hinstances, not_and, ← h.fairLayout_iff layout]
      constructor
      · rintro hall ⟨m, hm⟩
        exact ((hclients m hm).2.mp (hall m hm)).2
      · exact fun hfair m hm => (hclients m hm).2.mpr ⟨hbalanced m hm, hfair ⟨m, hm⟩⟩
  | bind manager workspaces groups =>
    obtain ⟨⟨hnew, hworkspaces, hgroups⟩, rfl⟩ := ite_some_none_eq_some.mp hstep
    have hlists : w.state.Lists workspaces := by
      refine ⟨hworkspaces.1, fun id data hlookup => ?_⟩
      rw [← mem_toFinset, hworkspaces.2, Finmap.mem_keys]
      exact mem_of_lookup_eq_some hlookup
    obtain ⟨hinv, hinstances, hothers, hcurrent, hbalanced, hholds⟩ :=
      h.inv.bind hnew hlists hgroups.1 fun output hmem => by
        rwa [← mem_toFinset, hgroups.2, Finmap.mem_keys]
    have hcases : ∀ m ∈ (w.state.bind manager workspaces groups).instances,
        m = manager ∨ (m ∈ w.state.instances ∧ m ≠ manager) := by
      intro m hm
      rw [hinstances, Finset.mem_insert] at hm
      by_cases heq : m = manager
      · exact Or.inl heq
      · exact Or.inr ⟨hm.resolve_left heq, heq⟩
    refine ⟨⟨hinv, hholds w.layout h.holds, ?_⟩, fun hall => iff_of_true ?_ nofun⟩
    · intro m hm
      rcases hcases m hm with rfl | ⟨hm, hne⟩
      · exact hcurrent
      · simp only [hothers m hne]
        exact h.current m hm
    · intro m hm
      rcases hcases m hm with rfl | ⟨hm, hne⟩
      · exact hbalanced
      · simp only [hothers m hne]
        exact hall m hm
  | stop manager =>
    obtain rfl := some.inj hstep
    obtain ⟨hinv, hholds⟩ := h.inv.stop manager
    refine ⟨⟨hinv, hholds w.layout h.holds, ?_⟩, fun hall => iff_of_true ?_ nofun⟩
    · exact fun m hm => h.current m (Finset.mem_erase.mp hm).2
    · exact fun m hm => hall m (Finset.mem_erase.mp hm).2

/-- **The clients mirror the layout** all along a run and every event is balanced, exactly when no
refresh of the run, while a manager is bound, renames a workspace that had a name and moves it to
another output at once. -/
theorem mirrored_iff (es : List (Step M Output WorkspaceId)) :
    Always step Mirrored start es ↔ Along step (fun w e => ¬ w.Misleads e) start es := by
  refine always_iff_along (J := Kept) (fun _ _ _ h hstep => (h.step hstep).1) ?_ start_kept ?_
  · intro w e w' h hmirrored hstep
    obtain ⟨hkept, hbalanced⟩ := h.step hstep
    rw [← hbalanced fun m hm => (hmirrored m hm).1]
    exact forall₂_congr fun m hm => and_iff_left (hkept.mirrors hm)
  · exact fun m hm => absurd hm (Finset.notMem_empty m)

/-! ## A workspace that is renamed and moved at once -/

/-- A workspace with a name on the first of two outputs. -/
def namedLayout : Layout Bool Unit where
  workspaces := [⟨some ⟨false, 0⟩, 0, (), some "chat", false⟩]
  sortedOutputs := [false, true]
  nodup := nodup_singleton ()

/-- The workspace has lost its name, and is on the second output. -/
def movedLayout : Layout Bool Unit where
  workspaces := [⟨some ⟨true, 0⟩, 0, (), none, false⟩]
  sortedOutputs := [false, true]
  nodup := nodup_singleton ()

/-- A manager is bound, and the workspace is renamed and moved. -/
def movedRun : List (Step Unit Bool Unit) :=
  [.bind () [] [], .refresh namedLayout ⟨[()], [], [], [()]⟩,
    .refresh movedLayout ⟨[()], [()], [false, true], [()]⟩]

/-- The workspace leaves the group of the second output, that it has never entered. -/
theorem movedRun_not_mirrored : ¬ Always step Mirrored start movedRun := by
  intro h
  have hrun : (exec step start movedRun).any (fun w =>
      decide (() ∈ w.state.instances) && !(w.state.display.clients ()).balanced) = true := by
    decide +kernel
  obtain ⟨w, hw, hlost⟩ := (any_eq_true _ _).mp hrun
  obtain ⟨hbound, hbalanced⟩ := Bool.and_eq_true_iff.mp hlost
  rw [((h.finish hw) () (of_decide_eq_true hbound)).1] at hbalanced
  cases hbalanced

end World

end Tiri.Protocols.ExtWorkspace
