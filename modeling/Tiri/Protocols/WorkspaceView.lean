import Mathlib.Data.Finset.Prod
import Tiri.Lib.HashMap

/-!
# What a client sees of the workspaces

The events of the ext-workspace protocol, the view that a client makes up from them, and what the
view has to be: a client is shown workspaces and groups under handles, and each workspace is in the
group of its output.

Results:
* `Shows.leave`, `Shows.enter`, `Shows.hide`, `Shows.show`, `Shows.update`: the events that keep a
  view up when one workspace changes;
* `Shows.showGroup`, `Shows.hideGroup`: the events for a group that comes or goes.
-/

namespace Tiri.Protocols.ExtWorkspace

open Option List Function Nat

/-- `ext_workspace_handle_v1::State`, by its flags. -/
structure WorkspaceState where
  active : Bool
  urgent : Bool
  deriving DecidableEq

/-- What a client knows of a workspace. -/
structure Info where
  id : Option String
  name : Option String
  coordinates : Option (ℕ × ℕ)
  state : Option WorkspaceState

/-- Nothing is known of a new handle. -/
def Info.unknown : Info where
  id := none
  name := none
  coordinates := none
  state := none

/-- The events of a manager, its groups and its workspaces. -/
inductive Event
  | workspaceGroup (group : ℕ)
  | workspace (workspace : ℕ)
  | workspaceEnter (group workspace : ℕ)
  | workspaceLeave (group workspace : ℕ)
  | groupRemoved (group : ℕ)
  | id (workspace : ℕ) (id : String)
  | name (workspace : ℕ) (name : String)
  | coordinates (workspace : ℕ) (coordinates : ℕ × ℕ)
  | state (workspace : ℕ) (state : WorkspaceState)
  | workspaceRemoved (workspace : ℕ)
  | done
  deriving DecidableEq

/-- The view that a client makes up from the events. -/
structure View where
  workspaces : HashMap ℕ Info
  groups : Finset ℕ
  /-- The pairs of a group and a workspace in it. -/
  members : Finset (ℕ × ℕ)

namespace View

/-- A property of a workspace changes. -/
def update (v : View) (workspace : ℕ) (f : Info → Info) : View :=
  match v.workspaces.lookup workspace with
  | none => v
  | some info => { v with workspaces := v.workspaces.insert workspace (f info) }

/-- What the event changes. -/
def apply (v : View) : Event → View
  | .workspaceGroup group => { v with groups := insert group v.groups }
  | .workspace workspace => { v with workspaces := v.workspaces.insert workspace Info.unknown }
  | .workspaceEnter group workspace => { v with members := insert (group, workspace) v.members }
  | .workspaceLeave group workspace => { v with members := v.members.erase (group, workspace) }
  | .groupRemoved group => { v with groups := v.groups.erase group }
  | .id workspace id => v.update workspace fun info => { info with id := some id }
  | .name workspace name => v.update workspace fun info => { info with name := some name }
  | .coordinates workspace coordinates =>
    v.update workspace fun info => { info with coordinates := some coordinates }
  | .state workspace state => v.update workspace fun info => { info with state := some state }
  | .workspaceRemoved workspace => { v with workspaces := v.workspaces.erase workspace }
  | .done => v

/-- The event is balanced: a workspace enters a group that it is not in, or leaves one that it is
in. -/
def balances (v : View) : Event → Bool
  | .workspaceEnter group workspace => (group, workspace) ∉ v.members
  | .workspaceLeave group workspace => (group, workspace) ∈ v.members
  | _ => true

end View

/-- A client that has bound a manager.  What the events change takes effect with `done`. -/
structure Client where
  pending : View
  current : View
  /-- Every event so far was balanced. -/
  balanced : Bool

namespace Client

/-- A client that has seen no event. -/
def new : Client where
  pending := { workspaces := ∅, groups := ∅, members := ∅ }
  current := { workspaces := ∅, groups := ∅, members := ∅ }
  balanced := true

/-- The client gets an event. -/
def receive (c : Client) (event : Event) : Client where
  pending := c.pending.apply event
  current := if event = .done then c.pending else c.current
  balanced := c.balanced && c.pending.balances event

/-- A workspace enters a group or leaves it, where both are there. -/
def enterLeave (enter : Bool) (group workspace : Option ℕ) (c : Client) : Client :=
  match group, workspace with
  | some group, some workspace =>
    if enter then c.receive (.workspaceEnter group workspace)
    else c.receive (.workspaceLeave group workspace)
  | _, _ => c

/-- The events that introduce a workspace. -/
def introduce (workspace : ℕ) (id : Option String) (name : String) (coordinates : ℕ × ℕ)
    (state : WorkspaceState) (c : Client) : Client :=
  let c := c.receive (.workspace workspace)
  let c := match id with
    | some id => c.receive (.id workspace id)
    | none => c
  let c := c.receive (.name workspace name)
  let c := c.receive (.coordinates workspace coordinates)
  c.receive (.state workspace state)

/-- An event that is sent where there is something to tell. -/
def tell {α : Type} (event : α → Event) (x : Option α) (c : Client) : Client :=
  x.elim c fun a => c.receive (event a)

/-- The events that change properties of a workspace. -/
def change (workspace : ℕ) (id name : Option String) (coordinates : Option (ℕ × ℕ))
    (state : Option WorkspaceState) (c : Client) : Client :=
  tell (.state workspace) state (tell (.coordinates workspace) coordinates
    (tell (.name workspace) name (tell (.id workspace) id c)))

theorem enterLeave_current (enter : Bool) (group workspace : Option ℕ) (c : Client) :
    (c.enterLeave enter group workspace).current = c.current := by
  cases group with
  | none => rfl
  | some group =>
    cases workspace with
    | none => rfl
    | some workspace =>
      cases enter with
      | true => rfl
      | false => rfl

variable (workspace : ℕ)

theorem introduce_frame (id : Option String) (name : String) (coordinates : ℕ × ℕ)
    (state : WorkspaceState) (c : Client) :
    (c.introduce workspace id name coordinates state).current = c.current ∧
      (c.introduce workspace id name coordinates state).balanced = c.balanced := by
  cases id with
  | none | some => simp [introduce, receive, View.balances]

theorem change_frame (id name : Option String) (coordinates : Option (ℕ × ℕ))
    (state : Option WorkspaceState) (c : Client) :
    (c.change workspace id name coordinates state).current = c.current ∧
      (c.change workspace id name coordinates state).balanced = c.balanced := by
  have htell : ∀ {α : Type} (event : α → Event) (x : Option α) (c : Client),
      (∀ a, event a ≠ .done) → (∀ v a, View.balances v (event a) = true) →
      (tell event x c).current = c.current ∧ (tell event x c).balanced = c.balanced := by
    intro α event x c hdone hbalances
    cases x with
    | none => exact ⟨rfl, rfl⟩
    | some a =>
      refine ⟨if_neg (hdone a), ?_⟩
      show (c.balanced && _) = _
      rw [hbalances, Bool.and_true]
  have hid := fun c => htell (.id workspace) id c nofun fun _ _ => rfl
  have hname := fun c => htell (.name workspace) name c nofun fun _ _ => rfl
  have hcoordinates := fun c => htell (.coordinates workspace) coordinates c nofun fun _ _ => rfl
  have hstate := fun c => htell (.state workspace) state c nofun fun _ _ => rfl
  unfold change
  constructor
  · rw [(hstate _).1, (hcoordinates _).1, (hname _).1, (hid _).1]
  · rw [(hstate _).2, (hcoordinates _).2, (hname _).2, (hid _).2]

variable {α : Type}

/-- Workspaces enter a group, each of them once. -/
theorem foldl_enter (handle : α → ℕ) (group : ℕ) (l : List α) (c : Client) :
    let c' := l.foldl (fun c a => c.receive (.workspaceEnter group (handle a))) c
    c'.pending.workspaces = c.pending.workspaces ∧ c'.pending.groups = c.pending.groups ∧
      c'.current = c.current ∧
      (∀ g h, (g, h) ∈ c'.pending.members ↔
        (g, h) ∈ c.pending.members ∨ g = group ∧ h ∈ l.map handle) ∧
      ((l.map handle).Nodup → (∀ h ∈ l.map handle, (group, h) ∉ c.pending.members) →
        c'.balanced = c.balanced) := by
  induction l generalizing c with
  | nil => simp
  | cons a l ih =>
    obtain ⟨hworkspaces, hgroups, hcurrent, hmembers, hbalanced⟩ :=
      ih (c.receive (.workspaceEnter group (handle a)))
    have hmem : ∀ g h, (g, h) ∈ (c.receive (.workspaceEnter group (handle a))).pending.members ↔
        (g = group ∧ h = handle a) ∨ (g, h) ∈ c.pending.members := by
      intro g h
      show (g, h) ∈ insert (group, handle a) c.pending.members ↔ _
      rw [Finset.mem_insert, Prod.mk.injEq]
    refine ⟨hworkspaces, hgroups, hcurrent, ?_, ?_⟩
    · intro g h
      rw [foldl_cons, hmembers, hmem, map_cons, mem_cons]
      tauto
    · intro hnodup hnew
      rw [map_cons, nodup_cons] at hnodup
      rw [foldl_cons, hbalanced hnodup.2 ?_]
      · have hnot : (group, handle a) ∉ c.pending.members := hnew _ (by simp)
        show (c.balanced && decide _) = c.balanced
        rw [decide_eq_true hnot, Bool.and_true]
      · intro h hh
        rw [hmem]
        rintro (⟨-, rfl⟩ | hold)
        · exact hnodup.1 hh
        · exact hnew h (mem_cons_of_mem _ hh) hold

/-- Workspaces leave a group, each of them once. -/
theorem foldl_leave (handle : α → ℕ) (group : ℕ) (l : List α) (c : Client) :
    let c' := l.foldl (fun c a => c.receive (.workspaceLeave group (handle a))) c
    c'.pending.workspaces = c.pending.workspaces ∧ c'.pending.groups = c.pending.groups ∧
      c'.current = c.current ∧
      (∀ g h, (g, h) ∈ c'.pending.members ↔
        (g, h) ∈ c.pending.members ∧ ¬ (g = group ∧ h ∈ l.map handle)) ∧
      ((l.map handle).Nodup → (∀ h ∈ l.map handle, (group, h) ∈ c.pending.members) →
        c'.balanced = c.balanced) := by
  induction l generalizing c with
  | nil => simp
  | cons a l ih =>
    obtain ⟨hworkspaces, hgroups, hcurrent, hmembers, hbalanced⟩ :=
      ih (c.receive (.workspaceLeave group (handle a)))
    have hmem : ∀ g h, (g, h) ∈ (c.receive (.workspaceLeave group (handle a))).pending.members ↔
        ¬ (g = group ∧ h = handle a) ∧ (g, h) ∈ c.pending.members := by
      intro g h
      show (g, h) ∈ c.pending.members.erase (group, handle a) ↔ _
      rw [Finset.mem_erase, ne_eq, Prod.mk.injEq]
    refine ⟨hworkspaces, hgroups, hcurrent, ?_, ?_⟩
    · intro g h
      rw [foldl_cons, hmembers, hmem, map_cons, mem_cons]
      tauto
    · intro hnodup hthere
      rw [map_cons, nodup_cons] at hnodup
      rw [foldl_cons, hbalanced hnodup.2 ?_]
      · have hin : (group, handle a) ∈ c.pending.members := hthere _ (by simp)
        show (c.balanced && decide _) = c.balanced
        rw [decide_eq_true hin, Bool.and_true]
      · intro h hh
        rw [hmem]
        refine ⟨?_, hthere h (mem_cons_of_mem _ hh)⟩
        rintro ⟨-, rfl⟩
        exact hnodup.1 hh

end Client

/-! ## What is shown -/

/-- A workspace that a client is shown. -/
structure Entry (O : Type) where
  handle : ℕ
  info : Info
  output : Option O

section Shows

variable {K O : Type}

/-- The view shows the workspaces and the groups under their handles, all of them below the next
one, and has each workspace in the group of its output. -/
structure Shows (next : ℕ) (workspaces : K → Option (Entry O)) (groups : O → Option ℕ)
    (v : View) : Prop where
  workspaces_iff : ∀ h info, v.workspaces.lookup h = some info ↔
    ∃ k e, workspaces k = some e ∧ e.handle = h ∧ e.info = info
  groups_iff : ∀ g, g ∈ v.groups ↔ ∃ o, groups o = some g
  members_iff : ∀ g h, (g, h) ∈ v.members ↔
    ∃ k e, workspaces k = some e ∧ e.handle = h ∧ e.output.bind groups = some g
  handle_inj : ∀ k k' e e', workspaces k = some e → workspaces k' = some e' →
    e.handle = e'.handle → k = k'
  group_inj : ∀ o o' g, groups o = some g → groups o' = some g → o = o'
  handle_lt : ∀ k e, workspaces k = some e → e.handle < next
  group_lt : ∀ o g, groups o = some g → g < next

variable {next : ℕ} {workspaces : K → Option (Entry O)} {groups : O → Option ℕ} {v v' : View}
variable {c : Client} {k : K} {e e' : Entry O} {o : O} {g : ℕ}

section

variable (hv : Shows next workspaces groups v)
include hv

theorem Shows.mono {next' : ℕ} (hle : next ≤ next') : Shows next' workspaces groups v :=
  { hv with
    handle_lt := fun k e hk => lt_of_lt_of_le (hv.handle_lt k e hk) hle
    group_lt := fun o g ho => lt_of_lt_of_le (hv.group_lt o g ho) hle }

omit hv in
/-- A client that has seen no event is shown nothing. -/
theorem shows_new : Shows next (fun _ : K => none) (fun _ : O => none) Client.new.pending where
  workspaces_iff h info := by
    unfold Client.new
    simp
  groups_iff g := by
    unfold Client.new
    simp
  members_iff g h := by
    unfold Client.new
    simp
  handle_inj k k' e e' hk := by cases hk
  group_inj o o' g ho := by cases ho
  handle_lt k e hk := by cases hk
  group_lt o g ho := by cases ho

section

variable (hk : workspaces k = some e)
include hk

/-- A workspace is looked up by its handle. -/
theorem Shows.lookup : v.workspaces.lookup e.handle = some e.info :=
  (hv.workspaces_iff _ _).mpr ⟨k, e, hk, rfl, rfl⟩

/-- A workspace is in the group of its output, and in no other. -/
theorem Shows.mem_members : (g, e.handle) ∈ v.members ↔ e.output.bind groups = some g := by
  rw [hv.members_iff]
  constructor
  · rintro ⟨k', e', hk', hhandle, hout⟩
    obtain rfl := hv.handle_inj k k' e e' hk hk' hhandle.symm
    obtain rfl := some.inj (hk.symm.trans hk')
    exact hout
  · exact fun hout => ⟨k, e, hk, rfl, hout⟩

/-- The other workspaces have other handles. -/
theorem Shows.apart {k' : K} (hne : k' ≠ k) (hk' : workspaces k' = some e') :
    e'.handle ≠ e.handle :=
  fun heq => hne (hv.handle_inj k' k e' e hk' hk heq)

omit hv in
/-- One of the workspaces, and the others. -/
theorem exists_split_iff {P : Entry O → Prop} :
    (∃ k' e', workspaces k' = some e' ∧ P e') ↔
      P e ∨ ∃ k' e', k' ≠ k ∧ workspaces k' = some e' ∧ P e' := by
  constructor
  · rintro ⟨k', e', hk', hP⟩
    by_cases heq : k' = k
    · subst heq
      obtain rfl := some.inj (hk.symm.trans hk')
      exact Or.inl hP
    · exact Or.inr ⟨k', e', heq, hk', hP⟩
  · rintro (hP | ⟨k', e', -, hk', hP⟩)
    · exact ⟨k, e, hk, hP⟩
    · exact ⟨k', e', hk', hP⟩

/-- What is looked up but for one workspace. -/
theorem Shows.lookup_others {h : ℕ} {info : Info} :
    (v.workspaces.lookup h = some info ∧ h ≠ e.handle) ↔
      ∃ k' e', k' ≠ k ∧ workspaces k' = some e' ∧ e'.handle = h ∧ e'.info = info := by
  rw [hv.workspaces_iff, exists_split_iff hk]
  constructor
  · rintro ⟨⟨hhandle, -⟩ | hrest, hne⟩
    · exact absurd hhandle.symm hne
    · exact hrest
  · rintro ⟨k', e', hne, hk', rfl, hinfo⟩
    exact ⟨Or.inr ⟨k', e', hne, hk', rfl, hinfo⟩, hv.apart hk hne hk'⟩

/-- The members but for one workspace. -/
theorem Shows.mem_others {h : ℕ} :
    ((g, h) ∈ v.members ∧ h ≠ e.handle) ↔
      ∃ k' e', k' ≠ k ∧ workspaces k' = some e' ∧ e'.handle = h ∧ e'.output.bind groups = some g := by
  rw [hv.members_iff, exists_split_iff hk]
  constructor
  · rintro ⟨⟨hhandle, -⟩ | hrest, hne⟩
    · exact absurd hhandle.symm hne
    · exact hrest
  · rintro ⟨k', e', hne, hk', rfl, hout⟩
    exact ⟨Or.inr ⟨k', e', hne, hk', rfl, hout⟩, hv.apart hk hne hk'⟩

/-- The members without those of a workspace that is in one group at most. -/
theorem Shows.mem_erase (hg : e.output.bind groups = some g) {g' h : ℕ} :
    (g', h) ∈ v.members.erase (g, e.handle) ↔ (g', h) ∈ v.members ∧ h ≠ e.handle := by
  rw [Finset.mem_erase]
  constructor
  · rintro ⟨hne, hmem⟩
    refine ⟨hmem, ?_⟩
    rintro rfl
    have hg' := (hv.mem_members hk).mp hmem
    rw [hg, some.injEq] at hg'
    exact hne (by rw [hg'])
  · exact fun ⟨hmem, hne⟩ => ⟨fun heq => hne (congrArg Prod.snd heq), hmem⟩

end

end

/-- A leave for a group that the workspace is not in changes nothing, and is not balanced. -/
theorem Shows.leave_absent (hv : Shows next workspaces groups c.pending)
    (hk : workspaces k = some e) (hnone : e.output.bind groups = none) (group : Option ℕ) :
    (c.enterLeave false group (some e.handle)).pending = c.pending ∧
      (c.enterLeave false group (some e.handle)).balanced = (c.balanced && group.isNone) := by
  cases group with
  | none => exact ⟨rfl, (Bool.and_true _).symm⟩
  | some g =>
    have hmem : (g, e.handle) ∉ c.pending.members := by
      rw [hv.mem_members hk, hnone]
      exact nofun
    constructor
    · show { c.pending with members := c.pending.members.erase (g, e.handle) } = c.pending
      rw [Finset.erase_eq_of_notMem hmem]
    · show (c.balanced && decide _) = _
      rw [decide_eq_false hmem]
      rfl

section Change

variable [DecidableEq K]

/-- **A workspace changes** under its handle. -/
theorem Shows.set (hv : Shows next workspaces groups v) (hk : workspaces k = some e)
    (hhandle : e'.handle = e.handle)
    (hworkspaces : ∀ h info, v'.workspaces.lookup h = some info ↔
      (e.handle = h ∧ e'.info = info) ∨ (v.workspaces.lookup h = some info ∧ h ≠ e.handle))
    (hgroups : v'.groups = v.groups)
    (hmembers : ∀ g h, (g, h) ∈ v'.members ↔
      (e.handle = h ∧ e'.output.bind groups = some g) ∨ ((g, h) ∈ v.members ∧ h ≠ e.handle)) :
    Shows next (update workspaces k (some e')) groups v' := by
  have hself : update workspaces k (some e') k = some e' := update_self ..
  have hothers : ∀ {P : Entry O → Prop},
      (∃ k' e, k' ≠ k ∧ update workspaces k (some e') k' = some e ∧ P e) ↔
        ∃ k' e, k' ≠ k ∧ workspaces k' = some e ∧ P e := by
    intro P
    constructor
    · rintro ⟨k', e, hne, hk', hP⟩
      rw [update_of_ne hne] at hk'
      exact ⟨k', e, hne, hk', hP⟩
    · rintro ⟨k', e, hne, hk', hP⟩
      exact ⟨k', e, hne, by rwa [update_of_ne hne], hP⟩
  -- Every workspace had its handle before.
  have hbefore : ∀ k₁ e₁, update workspaces k (some e') k₁ = some e₁ →
      ∃ e₀, workspaces k₁ = some e₀ ∧ e₀.handle = e₁.handle := by
    intro k₁ e₁ h₁
    by_cases heq : k₁ = k
    · subst heq
      rw [update_self, some.injEq] at h₁
      exact ⟨e, hk, by rw [← h₁, hhandle]⟩
    · rw [update_of_ne heq] at h₁
      exact ⟨e₁, h₁, rfl⟩
  constructor
  · intro h info
    rw [exists_split_iff hself, hothers, ← hv.lookup_others hk, hworkspaces, hhandle]
  · intro g
    rw [hgroups]
    exact hv.groups_iff g
  · intro g h
    rw [exists_split_iff hself, hothers, ← hv.mem_others hk, hmembers, hhandle]
  · intro k₁ k₂ e₁ e₂ h₁ h₂ heq
    obtain ⟨e₁', h₁', hhandle₁⟩ := hbefore k₁ e₁ h₁
    obtain ⟨e₂', h₂', hhandle₂⟩ := hbefore k₂ e₂ h₂
    exact hv.handle_inj k₁ k₂ e₁' e₂' h₁' h₂' (by rw [hhandle₁, hhandle₂, heq])
  · exact hv.group_inj
  · intro k₁ e₁ h₁
    obtain ⟨e₁', h₁', hhandle₁⟩ := hbefore k₁ e₁ h₁
    exact hhandle₁ ▸ hv.handle_lt k₁ e₁' h₁'
  · exact hv.group_lt

/-- A workspace moves to another output. -/
theorem Shows.setOutput (hv : Shows next workspaces groups v) (hk : workspaces k = some e)
    (output : Option O) {members : Finset (ℕ × ℕ)}
    (hmembers : ∀ g h, (g, h) ∈ members ↔
      (e.handle = h ∧ output.bind groups = some g) ∨ ((g, h) ∈ v.members ∧ h ≠ e.handle)) :
    Shows next (update workspaces k (some { e with output })) groups
      { v with members } := by
  refine hv.set hk rfl ?_ rfl hmembers
  intro h info
  by_cases heq : e.handle = h
  · rw [← heq, hv.lookup hk]
    simp
  · have hne : h ≠ e.handle := fun h => heq h.symm
    simp [heq, hne]

/-- **A workspace leaves** the group that it is in. -/
theorem Shows.leave (hv : Shows next workspaces groups c.pending) (hk : workspaces k = some e)
    (hg : e.output.bind groups = some g) :
    Shows next (update workspaces k (some { e with output := none })) groups
        (c.receive (.workspaceLeave g e.handle)).pending ∧
      (c.receive (.workspaceLeave g e.handle)).balanced = c.balanced := by
  have hmem : (g, e.handle) ∈ c.pending.members := (hv.mem_members hk).mpr hg
  constructor
  · refine hv.setOutput hk none ?_
    intro g' h
    rw [hv.mem_erase hk hg]
    simp
  · show (c.balanced && decide _) = c.balanced
    rw [decide_eq_true hmem, Bool.and_true]

variable {output : Option O}

/-- A workspace that is in no group leaves none, and a workspace comes to an output that has no
group. -/
theorem Shows.assign (hv : Shows next workspaces groups v) (hk : workspaces k = some e)
    (hnone : e.output.bind groups = none) (ho : output.bind groups = none) :
    Shows next (update workspaces k (some { e with output })) groups v := by
  refine hv.setOutput hk output ?_
  intro g h
  rw [ho]
  simp only [reduceCtorEq, and_false, false_or]
  refine ⟨fun hmem => ⟨hmem, ?_⟩, And.left⟩
  rintro rfl
  rw [hv.mem_members hk, hnone] at hmem
  cases hmem

section

variable (hv : Shows next workspaces groups c.pending) (hk : workspaces k = some e)
include hv hk

/-- **A workspace enters** the group of its output. -/
theorem Shows.enter (hnone : e.output.bind groups = none) (hg : output.bind groups = some g) :
    Shows next (update workspaces k (some { e with output })) groups
        (c.receive (.workspaceEnter g e.handle)).pending ∧
      (c.receive (.workspaceEnter g e.handle)).balanced = c.balanced := by
  have hmem : ∀ g', (g', e.handle) ∉ c.pending.members := by
    intro g'
    rw [hv.mem_members hk, hnone]
    exact nofun
  constructor
  · refine hv.setOutput hk output ?_
    intro g' h
    rw [Finset.mem_insert, hg]
    constructor
    · rintro (heq | hmem')
      · obtain ⟨rfl, rfl⟩ := Prod.mk.inj heq
        exact Or.inl ⟨rfl, rfl⟩
      · exact Or.inr ⟨hmem', fun heq => hmem g' (heq ▸ hmem')⟩
    · rintro (⟨rfl, heq⟩ | ⟨hmem', -⟩)
      · exact Or.inl (by rw [some.inj heq])
      · exact Or.inr hmem'
  · show (c.balanced && decide _) = c.balanced
    rw [decide_eq_true (hmem g), Bool.and_true]

/-- A workspace leaves the group of its output, where there is one. -/
theorem Shows.leaves :
    Shows next (update workspaces k (some { e with output := none })) groups
        (c.enterLeave false (e.output.bind groups) (some e.handle)).pending ∧
      (c.enterLeave false (e.output.bind groups) (some e.handle)).balanced = c.balanced := by
  cases hg : e.output.bind groups with
  | none => exact ⟨hv.assign hk hg rfl, rfl⟩
  | some g => exact hv.leave hk hg

/-- A workspace that is in no group enters the group of an output, where there is one. -/
theorem Shows.enters (hnone : e.output.bind groups = none) (output : Option O) :
    Shows next (update workspaces k (some { e with output })) groups
        (c.enterLeave true (output.bind groups) (some e.handle)).pending ∧
      (c.enterLeave true (output.bind groups) (some e.handle)).balanced = c.balanced := by
  cases hg : output.bind groups with
  | none => exact ⟨hv.assign hk hnone hg, rfl⟩
  | some g => exact hv.enter hk hnone hg

/-- A workspace moves from the group of its output to the group of another. -/
theorem Shows.moves (output : Option O) :
    Shows next (update workspaces k (some { e with output })) groups
        ((c.enterLeave false (e.output.bind groups) (some e.handle)).enterLeave true
          (output.bind groups) (some e.handle)).pending ∧
      ((c.enterLeave false (e.output.bind groups) (some e.handle)).enterLeave true
          (output.bind groups) (some e.handle)).balanced = c.balanced := by
  obtain ⟨hleft, hbalanced⟩ := hv.leaves hk
  obtain ⟨hentered, hbalanced'⟩ := hleft.enters (update_self ..) rfl output
  rw [update_idem] at hentered
  exact ⟨hentered, hbalanced'.trans hbalanced⟩

/-- A workspace leaves the group of its output, and then the group of another, that it is not
in. -/
theorem Shows.leaves_again (group : Option ℕ) :
    Shows next (update workspaces k (some { e with output := none })) groups
        ((c.enterLeave false (e.output.bind groups) (some e.handle)).enterLeave false
          group (some e.handle)).pending ∧
      ((c.enterLeave false (e.output.bind groups) (some e.handle)).enterLeave false
          group (some e.handle)).balanced = (c.balanced && group.isNone) := by
  obtain ⟨hleft, hbalanced⟩ := hv.leaves hk
  obtain ⟨hsame, hbalanced'⟩ := hleft.leave_absent (update_self ..) rfl group
  rw [hsame, hbalanced', hbalanced]
  exact ⟨hleft, rfl⟩

omit hk in
omit hv in
/-- **A property** of a workspace changes. -/
theorem Shows.setInfo (hv : Shows next workspaces groups v) (hk : workspaces k = some e)
    (f : Info → Info) :
    Shows next (update workspaces k (some { e with info := f e.info })) groups
      (v.update e.handle f) := by
  have hupdate : v.update e.handle f =
      { v with workspaces := v.workspaces.insert e.handle (f e.info) } := by
    unfold View.update
    rw [hv.lookup hk]
  rw [hupdate]
  refine hv.set hk rfl ?_ rfl ?_
  · intro h info
    by_cases heq : h = e.handle
    · subst heq
      simp
    · have hne : e.handle ≠ h := fun h => heq h.symm
      simp [heq, hne]
  · intro g h
    by_cases heq : h = e.handle
    · subst heq
      rw [hv.mem_members hk]
      simp
    · have hne : e.handle ≠ h := fun h => heq h.symm
      simp [heq, hne]

/-- **Properties** of a workspace change, those that are given. -/
theorem Shows.changes (id name : Option String) (coordinates : Option (ℕ × ℕ))
    (state : Option WorkspaceState) :
    Shows next (update workspaces k (some { e with
        info := ⟨id.or e.info.id, name.or e.info.name, coordinates.or e.info.coordinates,
          state.or e.info.state⟩ })) groups
      (c.change e.handle id name coordinates state).pending := by
  have htell : ∀ {α : Type} {info : Info} {c : Client} (event : α → Event) (x : Option α)
      (f : α → Info → Info), (∀ a v, View.apply v (event a) = v.update e.handle (f a)) →
      Shows next (update workspaces k (some { e with info })) groups c.pending →
      Shows next (update workspaces k
          (some { e with info := x.elim info fun a => f a info })) groups
        (c.tell event x).pending := by
    intro α info c event x f hf hv
    cases x with
    | none => exact hv
    | some a =>
      have hset := hv.setInfo (update_self ..) (f a)
      rw [update_idem] at hset
      show Shows _ _ _ (c.pending.apply (event a))
      rw [hf]
      exact hset
  have hself : update workspaces k (some { e with info := e.info }) = workspaces := by
    rw [← hk, update_eq_self]
  have hid := htell (c := c) (.id e.handle) id (fun id info => { info with id := some id })
    (fun _ _ => rfl) (hself.symm ▸ hv)
  have hname := htell (.name e.handle) name (fun name info => { info with name := some name })
    (fun _ _ => rfl) hid
  have hcoordinates := htell (.coordinates e.handle) coordinates
    (fun coordinates info => { info with coordinates := some coordinates }) (fun _ _ => rfl) hname
  have hstate := htell (.state e.handle) state (fun state info => { info with state := some state })
    (fun _ _ => rfl) hcoordinates
  cases id <;> cases name <;> cases coordinates <;> cases state <;> exact hstate

end

/-- **A workspace is removed**, from no group. -/
theorem Shows.hide (hv : Shows next workspaces groups v) (hk : workspaces k = some e)
    (hnone : e.output.bind groups = none) :
    Shows next (update workspaces k none) groups
      (v.apply (.workspaceRemoved e.handle)) := by
  have hothers : ∀ {P : Entry O → Prop}, (∃ k' e, update workspaces k none k' = some e ∧ P e) ↔
        ∃ k' e, k' ≠ k ∧ workspaces k' = some e ∧ P e := by
    intro P
    constructor
    · rintro ⟨k', e', hk', hP⟩
      by_cases heq : k' = k
      · rw [heq, update_self] at hk'
        cases hk'
      · rw [update_of_ne heq] at hk'
        exact ⟨k', e', heq, hk', hP⟩
    · rintro ⟨k', e', hne, hk', hP⟩
      exact ⟨k', e', by rwa [update_of_ne hne], hP⟩
  have hbefore : ∀ k₁ e₁, update workspaces k none k₁ = some e₁ →
      workspaces k₁ = some e₁ := by
    intro k₁ e₁ h₁
    by_cases heq : k₁ = k
    · rw [heq, update_self] at h₁
      cases h₁
    · rwa [update_of_ne heq] at h₁
  constructor
  · intro h info
    rw [hothers, ← hv.lookup_others hk]
    show (v.workspaces.erase e.handle).lookup h = some info ↔ _
    by_cases heq : h = e.handle
    · subst heq
      simp
    · simp [heq]
  · exact hv.groups_iff
  · intro g h
    rw [hothers, ← hv.mem_others hk]
    refine ⟨fun hmem => ⟨hmem, ?_⟩, And.left⟩
    rintro rfl
    have hg := (hv.mem_members hk).mp hmem
    rw [hnone] at hg
    cases hg
  · intro k₁ k₂ e₁ e₂ h₁ h₂ heq
    exact hv.handle_inj k₁ k₂ e₁ e₂ (hbefore k₁ e₁ h₁) (hbefore k₂ e₂ h₂) heq
  · exact hv.group_inj
  · exact fun k₁ e₁ h₁ => hv.handle_lt k₁ e₁ (hbefore k₁ e₁ h₁)
  · exact hv.group_lt

/-- The workspaces after one is added. -/
theorem exists_added_iff (hk : workspaces k = none) {P : Entry O → Prop} :
    (∃ k' e', update workspaces k (some e) k' = some e' ∧ P e') ↔
      P e ∨ ∃ k' e', workspaces k' = some e' ∧ P e' := by
  constructor
  · rintro ⟨k', e', hk', hP⟩
    by_cases heq : k' = k
    · rw [heq, update_self, some.injEq] at hk'
      exact Or.inl (hk' ▸ hP)
    · rw [update_of_ne heq] at hk'
      exact Or.inr ⟨k', e', hk', hP⟩
  · rintro (hP | ⟨k', e', hk', hP⟩)
    · exact ⟨k, e, update_self .., hP⟩
    · have hne : k' ≠ k := by
        rintro rfl
        rw [hk] at hk'
        cases hk'
      exact ⟨k', e', by rwa [update_of_ne hne], hP⟩

/-- **A workspace is shown** under the next handle, in no group. -/
theorem Shows.show (hv : Shows next workspaces groups v) (hk : workspaces k = none)
    (hnone : output.bind groups = none) {next' : ℕ} (hlt : next < next') :
    Shows next' (update workspaces k (some ⟨next, Info.unknown, output⟩)) groups
      (v.apply (.workspace next)) := by
  have hadd : ∀ {P : Entry O → Prop},
      (∃ k' e, update workspaces k (some ⟨next, Info.unknown, output⟩) k' = some e ∧ P e) ↔
        P ⟨next, Info.unknown, output⟩ ∨ ∃ k' e, workspaces k' = some e ∧ P e :=
    exists_added_iff hk
  have hcases : ∀ k₁ e₁, update workspaces k (some ⟨next, Info.unknown, output⟩) k₁ = some e₁ →
      (k₁ = k ∧ e₁.handle = next) ∨ (workspaces k₁ = some e₁ ∧ e₁.handle < next) := by
    intro k₁ e₁ h₁
    by_cases heq : k₁ = k
    · rw [heq, update_self, some.injEq] at h₁
      exact Or.inl ⟨heq, by rw [← h₁]⟩
    · rw [update_of_ne heq] at h₁
      exact Or.inr ⟨h₁, hv.handle_lt k₁ e₁ h₁⟩
  constructor
  · intro h info
    rw [hadd, ← hv.workspaces_iff]
    show (v.workspaces.insert next Info.unknown).lookup h = some info ↔ _
    by_cases heq : h = next
    · subst heq
      rw [Finmap.lookup_insert]
      constructor
      · exact fun hinfo => Or.inl ⟨rfl, some.inj hinfo⟩
      · rintro (⟨-, hinfo⟩ | hlookup)
        · exact congrArg some hinfo
        · obtain ⟨k', e', hk', hhandle, -⟩ := (hv.workspaces_iff _ _).mp hlookup
          exact absurd hhandle (Nat.ne_of_lt (hv.handle_lt k' e' hk'))
    · rw [Finmap.lookup_insert_of_ne _ heq]
      have hne : next ≠ h := fun h => heq h.symm
      simp [hne]
  · exact hv.groups_iff
  · intro g h
    rw [hadd, ← hv.members_iff, hnone]
    simp [View.apply]
  · intro k₁ k₂ e₁ e₂ h₁ h₂ heq
    rcases hcases k₁ e₁ h₁ with ⟨hk₁, hn₁⟩ | ⟨h₁, hn₁⟩
    · rcases hcases k₂ e₂ h₂ with ⟨hk₂, -⟩ | ⟨-, hn₂⟩
      · rw [hk₁, hk₂]
      · omega
    · rcases hcases k₂ e₂ h₂ with ⟨-, hn₂⟩ | ⟨h₂, -⟩
      · omega
      · exact hv.handle_inj k₁ k₂ e₁ e₂ h₁ h₂ heq
  · exact hv.group_inj
  · intro k₁ e₁ h₁
    rcases hcases k₁ e₁ h₁ with ⟨-, hn₁⟩ | ⟨-, hn₁⟩
    · omega
    · omega
  · exact fun o g ho => lt_trans (hv.group_lt o g ho) hlt

/-- **A workspace is introduced** under a handle that was not used, in no group. -/
theorem Shows.introduce (hv : Shows next workspaces groups c.pending) (hk : workspaces k = none)
    (hnone : output.bind groups = none) {handle next' : ℕ} (hle : next ≤ handle)
    (hlt : handle < next') (id : Option String) (name : String) (coordinates : ℕ × ℕ)
    (state : WorkspaceState) :
    Shows next' (update workspaces k
        (some ⟨handle, ⟨id, some name, some coordinates, some state⟩, output⟩)) groups
      (c.introduce handle id name coordinates state).pending := by
  have hshow := (hv.mono hle).show hk hnone hlt
  have hid := hshow.setInfo (update_self ..) fun info => { info with id }
  rw [update_idem] at hid
  have hname := hid.setInfo (update_self ..) fun info => { info with name := some name }
  rw [update_idem] at hname
  have hcoordinates := hname.setInfo (update_self ..)
    fun info => { info with coordinates := some coordinates }
  rw [update_idem] at hcoordinates
  have hstate := hcoordinates.setInfo (update_self ..)
    fun info => { info with state := some state }
  rw [update_idem] at hstate
  cases id with
  | some id => exact hstate
  | none =>
    have hsame : ((c.pending.apply (.workspace handle)).update handle fun info =>
        { info with id := none }) = c.pending.apply (.workspace handle) := by
      unfold View.update
      rw [hshow.lookup (update_self ..)]
      show View.mk (Finmap.insert handle _ (Finmap.insert handle _ _)) _ _ = _
      rw [Finmap.insert_insert]
      rfl
    rw [hsame] at hstate
    exact hstate

end Change

section Group

variable [DecidableEq O]

/-- **A group is shown** under the next handle, with the workspaces of its output. -/
theorem Shows.showGroup (hv : Shows next workspaces groups v) (ho : groups o = none)
    (hgroups : v'.groups = insert next v.groups) (hworkspaces : v'.workspaces = v.workspaces)
    (hmembers : ∀ g h, (g, h) ∈ v'.members ↔ (g, h) ∈ v.members ∨
      g = next ∧ ∃ k e, workspaces k = some e ∧ e.handle = h ∧ e.output = some o)
    {next' : ℕ} (hlt : next < next') :
    Shows next' workspaces (update groups o (some next)) v' := by
  have hbind : ∀ (output : Option O) (g : ℕ), output.bind (update groups o (some next)) = some g ↔
        output.bind groups = some g ∨ g = next ∧ output = some o := by
    intro output g
    cases output with
    | none => simp
    | some o' =>
      rw [bind_some, bind_some, some.injEq]
      by_cases heq : o' = o
      · subst heq
        rw [update_self, ho, some.injEq]
        simp [eq_comm]
      · simp [heq]
  have hcases : ∀ o₁ g₁, update groups o (some next) o₁ = some g₁ →
      (o₁ = o ∧ g₁ = next) ∨ (groups o₁ = some g₁ ∧ g₁ < next) := by
    intro o₁ g₁ h₁
    by_cases heq : o₁ = o
    · rw [heq, update_self, some.injEq] at h₁
      exact Or.inl ⟨heq, h₁.symm⟩
    · rw [update_of_ne heq] at h₁
      exact Or.inr ⟨h₁, hv.group_lt o₁ g₁ h₁⟩
  constructor
  · intro h info
    rw [hworkspaces]
    exact hv.workspaces_iff h info
  · intro g
    rw [hgroups, Finset.mem_insert, hv.groups_iff]
    constructor
    · rintro (rfl | ⟨o', ho'⟩)
      · exact ⟨o, update_self ..⟩
      · have hne : o' ≠ o := by
          rintro rfl
          rw [ho] at ho'
          cases ho'
        exact ⟨o', by rwa [update_of_ne hne]⟩
    · rintro ⟨o', ho'⟩
      rcases hcases o' g ho' with ⟨-, hg⟩ | ⟨ho', -⟩
      · exact Or.inl hg
      · exact Or.inr ⟨o', ho'⟩
  · intro g h
    rw [hmembers, hv.members_iff]
    constructor
    · rintro (⟨k, e, hk, hhandle, hout⟩ | ⟨hg, k, e, hk, hhandle, hout⟩)
      · exact ⟨k, e, hk, hhandle, (hbind _ _).mpr (Or.inl hout)⟩
      · exact ⟨k, e, hk, hhandle, (hbind _ _).mpr (Or.inr ⟨hg, hout⟩)⟩
    · rintro ⟨k, e, hk, hhandle, hout⟩
      rcases (hbind _ _).mp hout with hout | ⟨hg, hout⟩
      · exact Or.inl ⟨k, e, hk, hhandle, hout⟩
      · exact Or.inr ⟨hg, k, e, hk, hhandle, hout⟩
  · exact hv.handle_inj
  · intro o₁ o₂ g h₁ h₂
    rcases hcases o₁ g h₁ with ⟨ho₁, hg₁⟩ | ⟨h₁, hg₁⟩
    · rcases hcases o₂ g h₂ with ⟨ho₂, -⟩ | ⟨-, hg₂⟩
      · rw [ho₁, ho₂]
      · omega
    · rcases hcases o₂ g h₂ with ⟨-, hg₂⟩ | ⟨h₂, -⟩
      · omega
      · exact hv.group_inj o₁ o₂ g h₁ h₂
  · exact fun k e hk => lt_trans (hv.handle_lt k e hk) hlt
  · intro o₁ g₁ h₁
    rcases hcases o₁ g₁ h₁ with ⟨-, hg₁⟩ | ⟨-, hg₁⟩
    · omega
    · omega

/-- **A group is removed**, after its workspaces have left it. -/
theorem Shows.hideGroup (hv : Shows next workspaces groups v) (ho : groups o = some g)
    (hgroups : v'.groups = v.groups.erase g) (hworkspaces : v'.workspaces = v.workspaces)
    (hmembers : ∀ g' h, (g', h) ∈ v'.members ↔ (g', h) ∈ v.members ∧ g' ≠ g) :
    Shows next workspaces (update groups o none) v' := by
  have hiff : ∀ o' g', update groups o none o' = some g' ↔
      groups o' = some g' ∧ g' ≠ g := by
    intro o' g'
    by_cases heq : o' = o
    · subst heq
      rw [update_self, ho, some.injEq]
      constructor
      · exact nofun
      · rintro ⟨rfl, hne⟩
        exact absurd rfl hne
    · rw [update_of_ne heq]
      refine ⟨fun ho' => ⟨ho', ?_⟩, And.left⟩
      rintro rfl
      exact heq (hv.group_inj o' o g' ho' ho)
  constructor
  · intro h info
    rw [hworkspaces]
    exact hv.workspaces_iff h info
  · intro g'
    rw [hgroups, Finset.mem_erase, hv.groups_iff]
    constructor
    · rintro ⟨hne, o', ho'⟩
      exact ⟨o', (hiff o' g').mpr ⟨ho', hne⟩⟩
    · rintro ⟨o', ho'⟩
      obtain ⟨ho', hne⟩ := (hiff o' g').mp ho'
      exact ⟨hne, o', ho'⟩
  · intro g' h
    rw [hmembers, hv.members_iff]
    have hbind : ∀ output : Option O, output.bind (update groups o none) = some g' ↔
          output.bind groups = some g' ∧ g' ≠ g := by
      intro output
      cases output with
      | none => simp
      | some o' => exact hiff o' g'
    constructor
    · rintro ⟨⟨k, e, hk, hhandle, hout⟩, hne⟩
      exact ⟨k, e, hk, hhandle, (hbind _).mpr ⟨hout, hne⟩⟩
    · rintro ⟨k, e, hk, hhandle, hout⟩
      obtain ⟨hout, hne⟩ := (hbind _).mp hout
      exact ⟨⟨k, e, hk, hhandle, hout⟩, hne⟩
  · exact hv.handle_inj
  · intro o₁ o₂ g' h₁ h₂
    exact hv.group_inj o₁ o₂ g' ((hiff _ _).mp h₁).1 ((hiff _ _).mp h₂).1
  · exact hv.handle_lt
  · exact fun o₁ g₁ h₁ => hv.group_lt o₁ g₁ ((hiff _ _).mp h₁).1

end Group

end Shows

end Tiri.Protocols.ExtWorkspace
