import Tiri.Protocols.ForeignToplevel

/-!
# What is tracked is told

The invariant of the foreign toplevel protocols: each client knows what is tracked of the windows,
and at most one toplevel is tracked as activated.

Results:
* `Inv.changeToplevel`, `Inv.newToplevel`, `Inv.closeToplevel`: a window changes, comes or goes;
* `Inv.addExtInstance`, `Inv.addWlrInstance`: a toplevel gets a handle for a new manager.
-/

namespace Tiri.Protocols.ForeignToplevel

open View Option Finmap Function Nat HashMap ToplevelData HandleView
open List hiding map_map

variable {Surface Client Output : Type}

/-! ## What a client is told of a toplevel -/

/-- The handle of a manager. -/
def ToplevelData.handle (data : ToplevelData Output) (manager : ℕ) : Option ℕ :=
  (data.extListInstances.lookup manager).or
    ((data.wlrManagementInstances.lookup manager).map Prod.fst)

variable {data : ToplevelData Output}

theorem ToplevelData.handle_eq_none_iff {manager : ℕ} :
    data.handle manager = none ↔ data.extListInstances.lookup manager = none ∧
      data.wlrManagementInstances.lookup manager = none := by
  unfold ToplevelData.handle
  rw [or_eq_none_iff, map_eq_none_iff]

/-- What a manager has to show of a toplevel, with the outputs that are alive. -/
structure Tells (wlOutputs : List (WlOutput Client Output)) (nextWlOutput manager : ℕ)
    (data : ToplevelData Output) (shown : Shown) : Prop where
  title : shown.title = data.title
  appId : shown.appId = data.appId
  ext : data.wlrManagementInstances.lookup manager = none → shown.states = []
  wlr : ∀ handle outputs, data.wlrManagementInstances.lookup manager = some (handle, outputs) →
    shown.states = data.states ∧ ∀ x ∈ wlOutputs, x.id ∈ shown.outputs ↔ x.id ∈ outputs
  bound : ∀ id ∈ shown.outputs, id < nextWlOutput

variable {shown : Shown} {newTitle newAppId : Option String}

/-- A manager shows no activated toplevel where none is tracked. -/
theorem Tells.not_activated {wlOutputs : List (WlOutput Client Output)} {nextWlOutput manager : ℕ}
    (h : Tells wlOutputs nextWlOutput manager data shown) (hdata : .activated ∉ data.states) :
    .activated ∉ shown.states := by
  cases hwlr : data.wlrManagementInstances.lookup manager with
  | none =>
    rw [h.ext hwlr]
    exact not_mem_nil
  | some entry =>
    rw [(h.wlr entry.1 entry.2 hwlr).1]
    exact hdata

theorem receiveAll_textEvents (hv : HandleView) (title appId : Option String) :
    hv.receiveAll (textEvents title appId) = { hv with
        pending.title := title.or hv.pending.title
        pending.appId := appId.or hv.pending.appId } := by
  cases title <;> cases appId <;> rfl

theorem state_notMem_textEvents (title appId : Option String) (states : List State) :
    .state states ∉ textEvents title appId := by
  unfold textEvents
  cases title <;> cases appId <;> simp

/-- A text that is told, or is the same. -/
theorem new_or {old new : Option String} (h : old.isSome = true → new.isSome = true) :
    (if old ≠ new then new else none).or old = new := by
  by_cases heq : old = new
  · rw [if_neg (not_not.mpr heq), none_or, heq]
  · rw [if_pos heq]
    cases new with
    | none => cases old with
      | none => rfl
      | some text => exact absurd (h rfl) Bool.false_ne_true
    | some text => rfl

variable {title appId : Option String}

/-- A handle of ext-foreign-toplevel-list is told of a change. -/
theorem receiveAll_extChange (htitle : newTitle.or shown.title = title)
    (happId : newAppId.or shown.appId = appId) :
    HandleView.receiveAll ⟨shown, shown⟩
      (if newTitle.isSome || newAppId.isSome then textEvents newTitle newAppId ++ [.done]
      else []) =
    ⟨{ shown with title := title, appId := appId }, { shown with title := title, appId := appId }⟩ := by
  split
  · rw [receiveAll_append, receiveAll_textEvents, receiveAll_done, htitle, happId]
  · rename_i hsame
    simp only [Bool.or_eq_true, not_or, not_isSome_iff_eq_none] at hsame
    rw [hsame.1, none_or] at htitle
    rw [hsame.2, none_or] at happId
    rw [receiveAll_nil, ← htitle, ← happId]

variable {outputs enters : List ℕ}

/-- A handle of wlr-foreign-toplevel-management is told of a change. -/
theorem receiveAll_wlrChange {states : List State} {statesChanged outputChanged : Bool}
    (htitle : newTitle.or shown.title = title) (happId : newAppId.or shown.appId = appId)
    (hstates : statesChanged = false → shown.states = states) :
    HandleView.receiveAll ⟨shown, shown⟩
      (if newTitle.isSome || newAppId.isSome || statesChanged || outputChanged then
        textEvents newTitle newAppId ++ (if statesChanged then [.state states] else []) ++
          (if outputChanged then outputs.map .outputLeave ++ enters.map .outputEnter else []) ++
          [.done]
      else []) =
    ⟨⟨title, appId, states,
        if outputChanged then (shown.outputs.filter fun x => x ∉ outputs) ++ enters
        else shown.outputs⟩,
      ⟨title, appId, states,
        if outputChanged then (shown.outputs.filter fun x => x ∉ outputs) ++ enters
        else shown.outputs⟩⟩ := by
  have hstate : ∀ hv : HandleView, hv.pending.states = shown.states →
      hv.receiveAll (if statesChanged then [.state states] else []) =
        { hv with pending.states := states } := by
    intro hv hhv
    cases statesChanged with
    | true => rfl
    | false =>
      rw [← hstates rfl, ← hhv]
      rfl
  have houtput : ∀ hv : HandleView, hv.pending.outputs = shown.outputs →
      hv.receiveAll
        (if outputChanged then outputs.map .outputLeave ++ enters.map .outputEnter else []) =
      { hv with pending.outputs :=
          if outputChanged then (shown.outputs.filter fun x => x ∉ outputs) ++ enters
          else shown.outputs } := by
    intro hv hhv
    cases outputChanged with
    | true =>
      rw [if_pos rfl, if_pos rfl, receiveAll_append, receiveAll_outputLeave,
        receiveAll_outputEnter, hhv]
    | false =>
      rw [← hhv]
      rfl
  by_cases hchanged : (newTitle.isSome || newAppId.isSome || statesChanged || outputChanged) = true
  · rw [if_pos hchanged, receiveAll_append, receiveAll_append,
      receiveAll_append, receiveAll_textEvents, hstate _ rfl, houtput _ rfl,
      receiveAll_done, htitle, happId]
  · rw [if_neg hchanged]
    simp only [Bool.or_eq_true, not_or, Bool.not_eq_true, isSome_eq_false_iff,
      isNone_iff_eq_none] at hchanged
    obtain ⟨⟨⟨htitleSame, happIdSame⟩, hstatesSame⟩, houtputSame⟩ := hchanged
    rw [htitleSame, none_or] at htitle
    rw [happIdSame, none_or] at happId
    rw [receiveAll_nil, houtputSame, ← htitle, ← happId, ← hstates hstatesSame]
    rfl

theorem state_notMem_extChange {changed : Bool} (state : List State) :
    .state state ∉ (if changed then textEvents newTitle newAppId ++ [.done] else []) := by
  cases changed with
  | true =>
    rw [if_pos rfl, mem_append, not_or]
    exact ⟨state_notMem_textEvents newTitle newAppId state, by simp⟩
  | false => exact not_mem_nil

theorem eq_of_state_mem_wlrChange {states state : List State}
    {changed statesChanged outputChanged : Bool}
    (h : .state state ∈ (if changed then
        textEvents newTitle newAppId ++ (if statesChanged then [.state states] else []) ++
          (if outputChanged then outputs.map .outputLeave ++ enters.map .outputEnter else []) ++
          [.done]
      else [])) : state = states := by
  have htexts := state_notMem_textEvents newTitle newAppId state
  cases changed <;> cases statesChanged <;> cases outputChanged <;> simp_all

namespace World

variable [DecidableEq Surface]

/-- The handles of a manager, with what it has to show. -/
def book (w : World Surface Client Output) (manager : ℕ) : Book Surface := fun surface =>
  (w.toplevels.lookup surface).bind fun data =>
    (data.handle manager).map fun handle =>
      (handle, Tells w.wlOutputs w.nextWlOutput manager data)

/-- What is tracked is told. -/
structure Inv (owes : Surface → ℕ → Prop) (w : World Surface Client Output) : Prop where
  keeps : ∀ manager, Keeps (w.book manager) (w.log manager)
  nodup : (w.windows.map Window.surface).Nodup
  texts : ∀ win ∈ w.windows, w.keepsTexts win = true
  apart : ∀ surface data manager, w.toplevels.lookup surface = some data →
    data.extListInstances.lookup manager ≠ none →
    data.wlrManagementInstances.lookup manager = none
  fresh : ∀ surface data manager handle, w.toplevels.lookup surface = some data →
    data.handle manager = some handle → handle < w.nextHandle manager
  unbound : ∀ surface data manager, w.toplevels.lookup surface = some data →
    manager ∉ w.clients → data.handle manager = none
  managers : ∀ manager, manager ∈ w.extListInstances ∨ manager ∈ w.wlrManagementInstances →
    manager ∈ w.clients
  disjoint : ∀ manager, manager ∈ w.extListInstances → manager ∉ w.wlrManagementInstances
  extTold : ∀ surface data manager, w.toplevels.lookup surface = some data →
    manager ∈ w.extListInstances → data.extListInstances.lookup manager ≠ none
  wlrTold : ∀ surface data manager, w.toplevels.lookup surface = some data →
    manager ∈ w.wlrManagementInstances → data.wlrManagementInstances.lookup manager ≠ none
  outputs : ∀ surface data manager handle outputs, w.toplevels.lookup surface = some data →
    data.wlrManagementInstances.lookup manager = some (handle, outputs) →
    (∀ x ∈ w.wlOutputs, x.id ∈ outputs ↔ w.clients.lookup manager = some x.client ∧
      data.output = some x.output ∧ ¬ owes surface x.id) ∧
    ∀ id ∈ outputs, id < w.nextWlOutput
  wlOutputs : (w.wlOutputs.map WlOutput.id).Nodup ∧ ∀ x ∈ w.wlOutputs, x.id < w.nextWlOutput
  exclusive : ∀ surface surface' data data', w.toplevels.lookup surface = some data →
    w.toplevels.lookup surface' = some data' → .activated ∈ data.states →
    .activated ∈ data'.states → surface = surface'

variable {w w' : World Surface Client Output} {owes : Surface → ℕ → Prop} {surface : Surface}
variable {data data' : ToplevelData Output} {manager : ℕ}

theorem start_inv : Inv owes (start : World Surface Client Output) where
  keeps := fun _ => Keeps.empty
  nodup := nodup_nil
  texts := nofun
  apart := nofun
  fresh := nofun
  unbound := nofun
  managers := by simp [start]
  disjoint := by simp [start]
  extTold := nofun
  wlrTold := nofun
  outputs := nofun
  wlOutputs := by simp [start]
  exclusive := nofun

/-! ### One toplevel -/

/-- What is tracked of the surface with its new data. -/
structure Good (w : World Surface Client Output) (owes : Surface → ℕ → Prop)
    (nextHandle : ℕ → ℕ) (surface : Surface) (data : ToplevelData Output) : Prop where
  texts : ∀ win ∈ w.windows, win.surface = surface →
    (data.title.isSome = true → win.title.isSome = true) ∧
      (data.appId.isSome = true → win.appId.isSome = true)
  apart : ∀ manager, data.extListInstances.lookup manager ≠ none →
    data.wlrManagementInstances.lookup manager = none
  fresh : ∀ manager handle, data.handle manager = some handle → handle < nextHandle manager
  unbound : ∀ manager, manager ∉ w.clients → data.handle manager = none
  extTold : ∀ manager ∈ w.extListInstances, data.extListInstances.lookup manager ≠ none
  wlrTold : ∀ manager ∈ w.wlrManagementInstances, data.wlrManagementInstances.lookup manager ≠ none
  outputs : ∀ manager handle outputs,
    data.wlrManagementInstances.lookup manager = some (handle, outputs) →
    (∀ x ∈ w.wlOutputs, x.id ∈ outputs ↔ w.clients.lookup manager = some x.client ∧
      data.output = some x.output ∧ ¬ owes surface x.id) ∧
    ∀ id ∈ outputs, id < w.nextWlOutput
  exclusive : .activated ∈ data.states → ∀ surface' data', surface' ≠ surface →
    w.toplevels.lookup surface' = some data' → .activated ∉ data'.states

variable {win : Window Surface Output} {states : List State} {outputs : List ℕ} {handle : ℕ}

theorem keepsTexts_iff :
    w.keepsTexts win = true ↔ ∀ data, w.toplevels.lookup win.surface = some data →
      (data.title.isSome = true → win.title.isSome = true) ∧
        (data.appId.isSome = true → win.appId.isSome = true) := by
  unfold keepsTexts
  cases w.toplevels.lookup win.surface with
  | none => simp
  | some data =>
    cases data.title <;> cases data.appId <;> cases win.title <;> cases win.appId <;> simp

/-- The other toplevels stay as they are. -/
theorem book_insert (w : World Surface Client Output) (nextHandle : ℕ → ℕ)
    (log : ℕ → List Event) (surface : Surface) (data : ToplevelData Output) (manager : ℕ) :
    ({ w with toplevels := w.toplevels.insert surface data, nextHandle, log } :
      World Surface Client Output).book manager =
    update (w.book manager) surface ((data.handle manager).map fun handle =>
      (handle, Tells w.wlOutputs w.nextWlOutput manager data)) := by
  funext surface'
  by_cases heq : surface' = surface
  · subst heq
    rw [update_self]
    unfold book
    rw [lookup_insert]
    rfl
  · rw [update_of_ne heq]
    unfold book
    rw [lookup_insert_of_ne _ heq]

/-- The toplevel of a surface changes or comes. -/
theorem Inv.insert (h : Inv owes w) {owes' : Surface → ℕ → Prop} {nextHandle : ℕ → ℕ}
    {log : ℕ → List Event} (hgood : w.Good owes' nextHandle surface data)
    (howes : ∀ surface' id, surface' ≠ surface → (owes' surface' id ↔ owes surface' id))
    (hnext : ∀ manager, w.nextHandle manager ≤ nextHandle manager)
    (hkeeps : ∀ manager, Keeps (update (w.book manager) surface
      ((data.handle manager).map fun handle =>
        (handle, Tells w.wlOutputs w.nextWlOutput manager data))) (log manager)) :
    Inv owes' { w with toplevels := w.toplevels.insert surface data, nextHandle, log } := by
  have hcase : ∀ surface' data', (w.toplevels.insert surface data).lookup surface' = some data' →
      surface' = surface ∧ data' = data ∨
        surface' ≠ surface ∧ w.toplevels.lookup surface' = some data' := by
    intro surface' data' hlookup
    by_cases heq : surface' = surface
    · subst heq
      rw [lookup_insert, some.injEq] at hlookup
      exact .inl ⟨rfl, hlookup.symm⟩
    · rw [lookup_insert_of_ne _ heq] at hlookup
      exact .inr ⟨heq, hlookup⟩
  constructor
  case keeps =>
    intro manager
    rw [book_insert]
    exact hkeeps manager
  case nodup => exact h.nodup
  case texts =>
    refine fun win hwin => keepsTexts_iff.mpr fun data' hlookup => ?_
    rcases hcase win.surface data' hlookup with ⟨heq, rfl⟩ | ⟨-, hlookup⟩
    · exact hgood.texts win hwin heq
    · exact keepsTexts_iff.mp (h.texts win hwin) data' hlookup
  case apart =>
    intro surface' data' manager hlookup
    rcases hcase surface' data' hlookup with ⟨-, rfl⟩ | ⟨-, hlookup⟩
    · exact hgood.apart manager
    · exact h.apart surface' data' manager hlookup
  case fresh =>
    intro surface' data' manager handle hlookup hhandle
    rcases hcase surface' data' hlookup with ⟨-, rfl⟩ | ⟨-, hlookup⟩
    · exact hgood.fresh manager handle hhandle
    · exact (h.fresh surface' data' manager handle hlookup hhandle).trans_le (hnext manager)
  case unbound =>
    intro surface' data' manager hlookup
    rcases hcase surface' data' hlookup with ⟨-, rfl⟩ | ⟨-, hlookup⟩
    · exact hgood.unbound manager
    · exact h.unbound surface' data' manager hlookup
  case managers => exact h.managers
  case disjoint => exact h.disjoint
  case extTold =>
    intro surface' data' manager hlookup
    rcases hcase surface' data' hlookup with ⟨-, rfl⟩ | ⟨-, hlookup⟩
    · exact hgood.extTold manager
    · exact h.extTold surface' data' manager hlookup
  case wlrTold =>
    intro surface' data' manager hlookup
    rcases hcase surface' data' hlookup with ⟨-, rfl⟩ | ⟨-, hlookup⟩
    · exact hgood.wlrTold manager
    · exact h.wlrTold surface' data' manager hlookup
  case outputs =>
    intro surface' data' manager handle outputs hlookup hinstance
    rcases hcase surface' data' hlookup with ⟨rfl, rfl⟩ | ⟨hne, hlookup⟩
    · exact hgood.outputs manager handle outputs hinstance
    · refine (h.outputs surface' data' manager handle outputs hlookup hinstance).imp_left
        fun hx x hmem => ?_
      rw [hx x hmem, howes surface' x.id hne]
  case wlOutputs => exact h.wlOutputs
  case exclusive =>
    intro surface₁ surface₂ data₁ data₂ hlookup₁ hlookup₂ hact₁ hact₂
    rcases hcase surface₁ data₁ hlookup₁ with ⟨rfl, rfl⟩ | ⟨hne₁, hold₁⟩
    · rcases hcase surface₂ data₂ hlookup₂ with ⟨rfl, -⟩ | ⟨hne₂, hold₂⟩
      · rfl
      · exact absurd hact₂ (hgood.exclusive hact₁ surface₂ data₂ hne₂ hold₂)
    · rcases hcase surface₂ data₂ hlookup₂ with ⟨rfl, rfl⟩ | ⟨hne₂, hold₂⟩
      · exact absurd hact₁ (hgood.exclusive hact₂ surface₁ data₁ hne₁ hold₁)
      · exact h.exclusive surface₁ surface₂ data₁ data₂ hold₁ hold₂ hact₁ hact₂

/-- No other toplevel is shown as activated where no other one is tracked as such. -/
theorem alone_book (hothers : ∀ surface' data', surface' ≠ surface →
    w.toplevels.lookup surface' = some data' → .activated ∉ data'.states) :
    Keeps.Alone (w.book manager) surface := by
  intro surface' handle P hne hbook shown hshown
  obtain ⟨data', hlookup, hmap⟩ := bind_eq_some_iff.mp hbook
  obtain ⟨handle', -, heq⟩ := map_eq_some_iff.mp hmap
  cases heq
  exact hshown.not_activated (hothers surface' data' hne hlookup)

theorem book_of_lookup (hlookup : w.toplevels.lookup surface = some data) :
    w.book manager surface = (data.handle manager).map fun handle =>
      (handle, Tells w.wlOutputs w.nextWlOutput manager data) := by
  unfold book
  rw [hlookup, bind_some]

/-! ### A change -/

variable [DecidableEq Client] [DecidableEq Output] {x : WlOutput Client Output}

variable {output : Option Output}

omit [DecidableEq Surface] in
theorem mem_clientOutputs (hnodup : (w.wlOutputs.map WlOutput.id).Nodup) (hx : x ∈ w.wlOutputs) :
    x.id ∈ w.clientOutputs manager output ↔
      w.clients.lookup manager = some x.client ∧ output = some x.output := by
  unfold clientOutputs
  rw [List.mem_map]
  constructor
  · rintro ⟨y, hy, heq⟩
    obtain ⟨hmem, hy⟩ := mem_filter.mp hy
    rw [inj_on_of_nodup_map hnodup hmem hx heq] at hy
    exact of_decide_eq_true hy
  · intro h
    exact ⟨x, mem_filter.mpr ⟨hx, decide_eq_true h⟩, rfl⟩

theorem lt_of_mem_clientOutputs (h : Inv owes w) :
    ∀ id ∈ w.clientOutputs manager output, id < w.nextWlOutput := by
  intro id hid
  obtain ⟨x, hx, rfl⟩ := List.mem_map.mp hid
  exact h.wlOutputs.2 x (mem_filter.mp hx).1

omit [DecidableEq Surface] [DecidableEq Client] [DecidableEq Output] in
theorem isAlive_of_mem (hx : x ∈ w.wlOutputs) : w.isAlive x.id = true :=
  any_eq_true.mpr ⟨x, hx, decide_eq_true rfl⟩

/-- What is tracked of an existing window after a change. -/
def changed (w : World Surface Client Output) (win : Window Surface Output) (states : List State)
    (data : ToplevelData Output) : ToplevelData Output :=
  { data with
    title := win.title
    appId := win.appId
    states := states
    output := win.output
    wlrManagementInstances :=
      HashMap.mapEntries (fun manager (instance_, outputs) =>
        (instance_, (if decide (data.output ≠ win.output) then
          w.clientOutputs manager win.output else outputs).filter w.isAlive))
        data.wlrManagementInstances }

omit [DecidableEq Surface] in
theorem lookup_changed :
    (w.changed win states data).wlrManagementInstances.lookup manager =
      (data.wlrManagementInstances.lookup manager).map fun (instance_, outputs) =>
        (instance_, (if decide (data.output ≠ win.output) then
          w.clientOutputs manager win.output else outputs).filter w.isAlive) :=
  lookup_mapEntries ..

omit [DecidableEq Surface] in
theorem handle_changed : (w.changed win states data).handle manager = data.handle manager := by
  unfold ToplevelData.handle
  rw [lookup_changed, map_map]
  rfl

theorem Inv.good_changed (h : Inv (fun _ _ => False) w) (hwin : win ∈ w.windows)
    (hlookup : w.toplevels.lookup win.surface = some data)
    (hothers : .activated ∈ states → ∀ surface' data', surface' ≠ win.surface →
      w.toplevels.lookup surface' = some data' → .activated ∉ data'.states) :
    w.Good (fun _ _ => False) w.nextHandle win.surface (w.changed win states data) where
  texts := by
    intro win' hwin' heq
    rw [inj_on_of_nodup_map h.nodup hwin' hwin heq]
    exact ⟨id, id⟩
  apart := by
    intro manager hext
    rw [lookup_changed, h.apart win.surface data manager hlookup hext]
    rfl
  fresh := by
    intro manager handle hhandle
    rw [handle_changed] at hhandle
    exact h.fresh win.surface data manager handle hlookup hhandle
  unbound := by
    intro manager hmanager
    rw [handle_changed]
    exact h.unbound win.surface data manager hlookup hmanager
  extTold := fun manager => h.extTold win.surface data manager hlookup
  wlrTold := by
    intro manager hmanager
    rw [lookup_changed, ne_eq, map_eq_none_iff]
    exact h.wlrTold win.surface data manager hlookup hmanager
  outputs := by
    intro manager handle outputs hinstance
    rw [lookup_changed] at hinstance
    obtain ⟨⟨handle', outputs'⟩, hinstance', heq⟩ := map_eq_some_iff.mp hinstance
    rw [Prod.mk.injEq] at heq
    obtain ⟨-, rfl⟩ := heq
    obtain ⟨hold, hlt⟩ := h.outputs win.surface data manager handle' outputs' hlookup hinstance'
    constructor
    · intro x hx
      rw [mem_filter, isAlive_of_mem hx, and_iff_left rfl]
      by_cases houtput : data.output = win.output
      · rw [if_neg (by simpa using houtput), hold x hx, houtput]
        rfl
      · rw [if_pos (by simpa using houtput), mem_clientOutputs h.wlOutputs.1 hx]
        simp [changed]
    · intro id hid
      have hmem := (mem_filter.mp hid).1
      split at hmem
      · exact lt_of_mem_clientOutputs h id hmem
      · exact hlt id hmem
  exclusive := hothers

omit [DecidableEq Client] [DecidableEq Output] in
/-- A change is told without a second activated toplevel. -/
theorem Inv.quiet_or_alone (h : Inv owes w) (hlookup : w.toplevels.lookup surface = some data)
    (hothers : .activated ∈ states → ∀ surface' data', surface' ≠ surface →
      w.toplevels.lookup surface' = some data' → .activated ∉ data'.states) :
    (.activated ∉ data.states ∧ .activated ∉ states) ∨ Keeps.Alone (w.book manager) surface := by
  by_cases hdata : .activated ∈ data.states
  · refine .inr (alone_book fun surface' data' hne hlookup' hact => hne ?_)
    exact h.exclusive surface' surface data' data hlookup' hlookup hact hdata
  · by_cases hstates : .activated ∈ states
    · exact .inr (alone_book (hothers hstates))
    · exact .inl ⟨hdata, hstates⟩

theorem Inv.keeps_changed (h : Inv (fun _ _ => False) w) (hwin : win ∈ w.windows)
    (hlookup : w.toplevels.lookup win.surface = some data)
    (hothers : .activated ∈ states → ∀ surface' data', surface' ≠ win.surface →
      w.toplevels.lookup surface' = some data' → .activated ∉ data'.states) (manager : ℕ) :
    Keeps (update (w.book manager) win.surface
        (((w.changed win states data).handle manager).map fun handle =>
          (handle, Tells w.wlOutputs w.nextWlOutput manager (w.changed win states data))))
      ((w.changeToplevel win states data).log manager) := by
  obtain ⟨htitle, happId⟩ := keepsTexts_iff.mp (h.texts win hwin) data hlookup
  have hbook : ∀ handle, data.handle manager = some handle → w.book manager win.surface =
      some (handle, Tells w.wlOutputs w.nextWlOutput manager data) := by
    intro handle hhandle
    rw [book_of_lookup hlookup, hhandle, map_some]
  rw [handle_changed]
  unfold changeToplevel
  dsimp only
  cases hext : data.extListInstances.lookup manager with
  | some handle =>
    have hwlr := h.apart win.surface data manager hlookup (by rw [hext]; nofun)
    have hhandle : data.handle manager = some handle := by
      unfold ToplevelData.handle
      rw [hext, some_or]
    rw [hwlr, hhandle, map_some, append_nil]
    refine (h.keeps manager).change (hbook handle hhandle) (fun shown hshown => ?_)
      (.inl ⟨fun shown hshown => ?_, fun state hstate => ?_⟩)
    · have htold : (if data.title ≠ win.title then win.title else none).or shown.title =
          win.title := by
        rw [hshown.title]
        exact new_or htitle
      have htold' : (if data.appId ≠ win.appId then win.appId else none).or shown.appId =
          win.appId := by
        rw [hshown.appId]
        exact new_or happId
      refine ⟨_, receiveAll_extChange htold htold', rfl, rfl, fun _ => hshown.ext hwlr,
        fun handle' outputs hsome => ?_, hshown.bound⟩
      rw [lookup_changed, hwlr] at hsome
      cases hsome
    · rw [hshown.ext hwlr]
      exact not_mem_nil
    · exact absurd hstate (state_notMem_extChange state)
  | none =>
    cases hwlr : data.wlrManagementInstances.lookup manager with
    | none =>
      have hhandle := handle_eq_none_iff.mpr ⟨hext, hwlr⟩
      have hnone : w.book manager win.surface = none := by
        rw [book_of_lookup hlookup, hhandle, map_none]
      rw [hhandle, map_none, ← hnone, update_eq_self, append_nil, append_nil]
      exact h.keeps manager
    | some entry =>
      obtain ⟨handle, outputs⟩ := entry
      have hhandle : data.handle manager = some handle := by
        unfold ToplevelData.handle
        rw [hext, hwlr, none_or, map_some]
      rw [hhandle, map_some, append_nil]
      refine (h.keeps manager).change (hbook handle hhandle) (fun shown hshown => ?_) ?_
      · obtain ⟨hstates, houtputs⟩ := hshown.wlr handle outputs hwlr
        have htold : (if data.title ≠ win.title then win.title else none).or shown.title =
            win.title := by
          rw [hshown.title]
          exact new_or htitle
        have htold' : (if data.appId ≠ win.appId then win.appId else none).or shown.appId =
            win.appId := by
          rw [hshown.appId]
          exact new_or happId
        refine ⟨_, receiveAll_wlrChange htold htold' fun hsame => ?_, rfl, rfl, fun hnone => ?_,
          fun handle' outputs' hsome => ⟨rfl, fun x hx => ?_⟩, fun id hid => ?_⟩
        · rw [hstates]
          simpa using hsame
        · rw [lookup_changed, hwlr] at hnone
          cases hnone
        · rw [lookup_changed, hwlr, map_some, some.injEq, Prod.mk.injEq] at hsome
          obtain ⟨-, rfl⟩ := hsome
          rw [mem_filter, isAlive_of_mem hx, and_iff_left rfl]
          split
          · rw [mem_append, mem_filter, houtputs x hx]
            simp
          · exact houtputs x hx
        · split at hid
          · rcases mem_append.mp hid with hid | hid
            · exact hshown.bound id (mem_filter.mp hid).1
            · exact lt_of_mem_clientOutputs h id hid
          · exact hshown.bound id hid
      · rcases h.quiet_or_alone hlookup hothers with ⟨hdata, hstates⟩ | halone
        · refine .inl ⟨fun shown hshown => hshown.not_activated hdata, fun state hstate => ?_⟩
          rw [eq_of_state_mem_wlrChange hstate]
          exact hstates
        · exact .inr halone

theorem Inv.changeToplevel (h : Inv (fun _ _ => False) w) (hwin : win ∈ w.windows)
    (hlookup : w.toplevels.lookup win.surface = some data)
    (hothers : .activated ∈ states → ∀ surface' data', surface' ≠ win.surface →
      w.toplevels.lookup surface' = some data' → .activated ∉ data'.states) :
    Inv (fun _ _ => False) (w.changeToplevel win states data) :=
  h.insert (h.good_changed hwin hlookup hothers) (fun _ _ _ => Iff.rfl) (fun _ => le_rfl)
    (h.keeps_changed hwin hlookup hothers)

/-! ### A new handle -/

section

omit [DecidableEq Client] [DecidableEq Output]

/-- The next handle of a manager is not known. -/
theorem Inv.book_ne_nextHandle (h : Inv owes w) (manager : ℕ) (surface' : Surface)
    (P : Shown → Prop) : w.book manager surface' ≠ some (w.nextHandle manager, P) := by
  intro hbook
  obtain ⟨data', hlookup, hmap⟩ := bind_eq_some_iff.mp hbook
  obtain ⟨handle, hhandle, heq⟩ := map_eq_some_iff.mp hmap
  obtain ⟨rfl, -⟩ := heq
  exact lt_irrefl _ (h.fresh surface' data' manager _ hlookup hhandle)

theorem Inv.introduce_ext (h : Inv owes w) (hnone : w.book manager surface = none)
    (hwlr : data.wlrManagementInstances.lookup manager = none) :
    Keeps (update (w.book manager) surface
        (some (w.nextHandle manager, Tells w.wlOutputs w.nextWlOutput manager data)))
      (w.log manager ++ introduce (w.nextHandle manager) data.extEvents) := by
  refine (h.keeps manager).open hnone (h.book_ne_nextHandle manager)
    ⟨⟨data.title, data.appId, [], []⟩, ?_, rfl, rfl, fun _ => rfl, fun handle outputs hsome => ?_,
      nofun⟩ (.inl fun state hstate => ?_)
  · unfold ToplevelData.extEvents
    rw [receiveAll_append, receiveAll_append,
      receiveAll_identifier, receiveAll_textEvents, receiveAll_done]
    simp [Shown.new]
  · rw [hwlr] at hsome
    cases hsome
  · have hnot := state_notMem_textEvents data.title data.appId state
    simp [ToplevelData.extEvents, hnot] at hstate

theorem Inv.introduce_wlr (h : Inv owes w) (hnone : w.book manager surface = none)
    (hwlr : data.wlrManagementInstances.lookup manager = some (w.nextHandle manager, outputs))
    (hbound : ∀ id ∈ outputs, id < w.nextWlOutput)
    (hothers : .activated ∈ data.states → ∀ surface' data', surface' ≠ surface →
      w.toplevels.lookup surface' = some data' → .activated ∉ data'.states) :
    Keeps (update (w.book manager) surface
        (some (w.nextHandle manager, Tells w.wlOutputs w.nextWlOutput manager data)))
      (w.log manager ++ introduce (w.nextHandle manager) (data.wlrEvents outputs)) := by
  refine (h.keeps manager).open hnone (h.book_ne_nextHandle manager)
    ⟨⟨data.title, data.appId, data.states, outputs⟩, ?_, rfl, rfl, fun hsome => ?_,
      fun handle outputs' hsome => ?_, hbound⟩ ?_
  · unfold ToplevelData.wlrEvents
    rw [receiveAll_append, receiveAll_append, receiveAll_append,
      receiveAll_textEvents, receiveAll_state, receiveAll_outputEnter,
      receiveAll_done]
    simp [Shown.new]
  · rw [hwlr] at hsome
    cases hsome
  · rw [hwlr, some.injEq, Prod.mk.injEq] at hsome
    rw [hsome.2]
    exact ⟨rfl, fun _ _ => Iff.rfl⟩
  · by_cases hact : .activated ∈ data.states
    · exact .inr (alone_book (hothers hact))
    · refine .inl fun state hstate => ?_
      have hnot := state_notMem_textEvents data.title data.appId state
      have heq : state = data.states := by
        simpa [ToplevelData.wlrEvents, hnot] using hstate
      rw [heq]
      exact hact

end

/-- What is tracked of a new window. -/
def tracked (w : World Surface Client Output) (win : Window Surface Output) (states : List State) :
    ToplevelData Output where
  identifier := win.id
  title := win.title
  appId := win.appId
  states := states
  output := win.output
  extListInstances := HashMap.tabulate w.extListInstances w.nextHandle
  wlrManagementInstances := HashMap.tabulate w.wlrManagementInstances fun manager =>
    (w.nextHandle manager, w.clientOutputs manager win.output)

section

omit [DecidableEq Surface]

theorem handle_tracked :
    (w.tracked win states).handle manager =
      if manager ∈ w.extListInstances ∨ manager ∈ w.wlrManagementInstances then
        some (w.nextHandle manager)
      else none := by
  unfold ToplevelData.handle tracked
  rw [lookup_tabulate, lookup_tabulate]
  by_cases hext : manager ∈ w.extListInstances <;>
    by_cases hwlr : manager ∈ w.wlrManagementInstances <;> simp [hext, hwlr]

theorem lookup_ext_tracked :
    (w.tracked win states).extListInstances.lookup manager =
      if manager ∈ w.extListInstances then some (w.nextHandle manager) else none :=
  lookup_tabulate ..

theorem lookup_wlr_tracked :
    (w.tracked win states).wlrManagementInstances.lookup manager =
      if manager ∈ w.wlrManagementInstances then
        some (w.nextHandle manager, w.clientOutputs manager win.output)
      else none :=
  lookup_tabulate ..

end

section

variable (h : Inv (fun _ _ => False) w)
include h

theorem Inv.good_tracked (hwin : win ∈ w.windows)
    (hothers : .activated ∈ states → ∀ surface' data', surface' ≠ win.surface →
      w.toplevels.lookup surface' = some data' → .activated ∉ data'.states) :
    w.Good (fun _ _ => False) (w.newToplevel win states).nextHandle win.surface
      (w.tracked win states) where
  texts := by
    intro win' hwin' heq
    rw [inj_on_of_nodup_map h.nodup hwin' hwin heq]
    exact ⟨id, id⟩
  apart := by
    intro manager hsome
    rw [lookup_ext_tracked] at hsome
    have hmem : manager ∈ w.extListInstances := by
      by_contra hnot
      rw [if_neg hnot] at hsome
      exact hsome rfl
    rw [lookup_wlr_tracked, if_neg (h.disjoint manager hmem)]
  fresh := by
    intro manager handle hhandle
    rw [handle_tracked] at hhandle
    obtain ⟨hmem, heq⟩ := ite_none_right_eq_some.mp hhandle
    cases heq
    unfold newToplevel
    dsimp only
    rw [if_pos hmem]
    exact lt_succ_self _
  unbound := by
    intro manager hmanager
    rw [handle_tracked, if_neg fun hmem => hmanager (h.managers manager hmem)]
  extTold := by
    intro manager hmem
    rw [lookup_ext_tracked, if_pos hmem]
    nofun
  wlrTold := by
    intro manager hmem
    rw [lookup_wlr_tracked, if_pos hmem]
    nofun
  outputs := by
    intro manager handle outputs hinstance
    rw [lookup_wlr_tracked] at hinstance
    obtain ⟨-, heq⟩ := ite_none_right_eq_some.mp hinstance
    cases heq
    refine ⟨fun x hx => ?_, lt_of_mem_clientOutputs h⟩
    rw [mem_clientOutputs h.wlOutputs.1 hx]
    simp [tracked]
  exclusive := hothers

theorem Inv.keeps_tracked (hlookup : w.toplevels.lookup win.surface = none)
    (hothers : .activated ∈ states → ∀ surface' data', surface' ≠ win.surface →
      w.toplevels.lookup surface' = some data' → .activated ∉ data'.states) (manager : ℕ) :
    Keeps (update (w.book manager) win.surface
        (((w.tracked win states).handle manager).map fun handle =>
          (handle, Tells w.wlOutputs w.nextWlOutput manager (w.tracked win states))))
      ((w.newToplevel win states).log manager) := by
  have hnone : w.book manager win.surface = none := by
    unfold book
    rw [hlookup]
    rfl
  rw [handle_tracked]
  unfold newToplevel
  dsimp only
  by_cases hmem : manager ∈ w.extListInstances
  · rw [if_pos (.inl hmem), if_pos hmem, if_neg (h.disjoint manager hmem), append_nil]
    exact h.introduce_ext hnone (by rw [lookup_wlr_tracked, if_neg (h.disjoint manager hmem)])
  · by_cases hmem' : manager ∈ w.wlrManagementInstances
    · rw [if_pos (.inr hmem'), if_neg hmem, if_pos hmem', append_nil]
      exact h.introduce_wlr hnone (by rw [lookup_wlr_tracked, if_pos hmem'])
        (lt_of_mem_clientOutputs h) hothers
    · rw [if_neg (not_or.mpr ⟨hmem, hmem'⟩), if_neg hmem, if_neg hmem', append_nil,
        append_nil, map_none, ← hnone, update_eq_self]
      exact h.keeps manager

theorem Inv.newToplevel (hwin : win ∈ w.windows) (hlookup : w.toplevels.lookup win.surface = none)
    (hothers : .activated ∈ states → ∀ surface' data', surface' ≠ win.surface →
      w.toplevels.lookup surface' = some data' → .activated ∉ data'.states) :
    Inv (fun _ _ => False) (w.newToplevel win states) := by
  refine h.insert (h.good_tracked hwin hothers) (fun _ _ _ => Iff.rfl) (fun manager => ?_)
    (h.keeps_tracked hlookup hothers)
  show w.nextHandle manager ≤
    if manager ∈ w.extListInstances ∨ manager ∈ w.wlrManagementInstances then
      w.nextHandle manager + 1
    else w.nextHandle manager
  split
  · exact le_succ _
  · exact le_rfl

end

/-! ### A closed toplevel -/

section

omit [DecidableEq Client] [DecidableEq Output]

theorem Inv.keeps_closed (h : Inv owes w) (hlookup : w.toplevels.lookup surface = some data)
    (manager : ℕ) :
    Keeps (update (w.book manager) surface none)
      ((w.closeToplevel surface).log manager) := by
  unfold closeToplevel
  rw [hlookup]
  dsimp only
  have hbook : ∀ handle, data.handle manager = some handle → w.book manager surface =
      some (handle, Tells w.wlOutputs w.nextWlOutput manager data) := by
    intro handle hhandle
    rw [book_of_lookup hlookup, hhandle, map_some]
  cases hext : data.extListInstances.lookup manager with
  | some handle =>
    have hwlr := h.apart surface data manager hlookup (by rw [hext]; nofun)
    have hhandle : data.handle manager = some handle := by
      unfold ToplevelData.handle
      rw [hext, some_or]
    rw [hwlr]
    simpa using (h.keeps manager).close (hbook handle hhandle)
  | none =>
    cases hwlr : data.wlrManagementInstances.lookup manager with
    | some entry =>
      obtain ⟨handle, outputs⟩ := entry
      have hhandle : data.handle manager = some handle := by
        unfold ToplevelData.handle
        rw [hext, hwlr, none_or, map_some]
      simpa using (h.keeps manager).close (hbook handle hhandle)
    | none =>
      have hhandle := handle_eq_none_iff.mpr ⟨hext, hwlr⟩
      have hnone : w.book manager surface = none := by
        rw [book_of_lookup hlookup, hhandle, map_none]
      rw [← hnone, update_eq_self]
      simpa using h.keeps manager

theorem Inv.closeToplevel (h : Inv owes w) (surface : Surface) :
    Inv owes (w.closeToplevel surface) := by
  cases hlookup : w.toplevels.lookup surface with
  | none =>
    unfold World.closeToplevel
    rw [hlookup]
    exact h
  | some data =>
    have hkeeps := h.keeps_closed hlookup
    have heq : w.closeToplevel surface = { w with
        toplevels := w.toplevels.erase surface, log := (w.closeToplevel surface).log } := by
      unfold World.closeToplevel
      rw [hlookup]
    rw [heq]
    generalize (w.closeToplevel surface).log = log at hkeeps
    have hold : ∀ {surface' data'}, (w.toplevels.erase surface).lookup surface' = some data' →
        w.toplevels.lookup surface' = some data' := lookup_of_erase
    constructor
    case keeps =>
      intro manager
      have hbook : ({ w with toplevels := w.toplevels.erase surface, log } :
          World Surface Client Output).book manager =
          update (w.book manager) surface none := by
        funext surface'
        unfold book
        by_cases hne : surface' = surface
        · subst hne
          rw [update_self, lookup_erase, bind_none]
        · rw [update_of_ne hne, lookup_erase_ne hne]
      rw [hbook]
      exact hkeeps manager
    case nodup => exact h.nodup
    case texts =>
      exact fun win hwin => keepsTexts_iff.mpr fun data' hlookup' =>
        keepsTexts_iff.mp (h.texts win hwin) data' (hold hlookup')
    case apart => exact fun surface' data' manager hl => h.apart surface' data' manager (hold hl)
    case fresh =>
      exact fun surface' data' manager handle hl => h.fresh surface' data' manager handle (hold hl)
    case unbound =>
      exact fun surface' data' manager hl => h.unbound surface' data' manager (hold hl)
    case managers => exact h.managers
    case disjoint => exact h.disjoint
    case extTold =>
      exact fun surface' data' manager hl => h.extTold surface' data' manager (hold hl)
    case wlrTold =>
      exact fun surface' data' manager hl => h.wlrTold surface' data' manager (hold hl)
    case outputs =>
      exact fun surface' data' manager handle outputs hl =>
        h.outputs surface' data' manager handle outputs (hold hl)
    case wlOutputs => exact h.wlOutputs
    case exclusive =>
      exact fun surface₁ surface₂ data₁ data₂ hl₁ hl₂ =>
        h.exclusive surface₁ surface₂ data₁ data₂ (hold hl₁) (hold hl₂)

end

/-! ## Managers and outputs -/

section

omit [DecidableEq Client] [DecidableEq Output]

theorem Inv.texts_of_lookup (h : Inv owes w) (hlookup : w.toplevels.lookup surface = some data) :
    ∀ win ∈ w.windows, win.surface = surface →
      (data.title.isSome = true → win.title.isSome = true) ∧
        (data.appId.isSome = true → win.appId.isSome = true) := by
  rintro win hwin rfl
  exact keepsTexts_iff.mp (h.texts win hwin) data hlookup

theorem Inv.exclusive_of_lookup (h : Inv owes w)
    (hlookup : w.toplevels.lookup surface = some data) :
    .activated ∈ data.states → ∀ surface' data', surface' ≠ surface →
      w.toplevels.lookup surface' = some data' → .activated ∉ data'.states :=
  fun hact surface' data' hne hlookup' hact' =>
    hne (h.exclusive surface' surface data' data hlookup' hlookup hact' hact)

/-- A manager whose instances stay is told nothing. -/
theorem Inv.keeps_same (h : Inv owes w) (hlookup : w.toplevels.lookup surface = some data)
    (hhandle : data'.handle manager = data.handle manager)
    (htells : ∀ shown, Tells w.wlOutputs w.nextWlOutput manager data shown ↔
      Tells w.wlOutputs w.nextWlOutput manager data' shown) :
    Keeps (update (w.book manager) surface ((data'.handle manager).map fun handle =>
        (handle, Tells w.wlOutputs w.nextWlOutput manager data'))) (w.log manager) := by
  have hsame : (data'.handle manager).map (fun handle =>
      (handle, Tells w.wlOutputs w.nextWlOutput manager data')) = w.book manager surface := by
    rw [book_of_lookup hlookup, hhandle]
    have heq : Tells w.wlOutputs w.nextWlOutput manager data =
        Tells w.wlOutputs w.nextWlOutput manager data' := funext fun shown => propext (htells shown)
    rw [heq]
  rw [hsame, update_eq_self]
  exact h.keeps manager

end

/-- A toplevel with a handle of one more ext-foreign-toplevel-list. -/
def withExt (data : ToplevelData Output) (manager handle : ℕ) : ToplevelData Output :=
  { data with extListInstances := data.extListInstances.insert manager handle }

section

omit [DecidableEq Surface] [DecidableEq Client] [DecidableEq Output]

theorem handle_withExt (handle : ℕ) :
    (withExt data manager handle).handle manager = some handle := by
  unfold ToplevelData.handle withExt
  rw [lookup_insert, some_or]

theorem lookup_withExt_of_ne {m : ℕ} (hne : m ≠ manager) :
    (withExt data manager handle).extListInstances.lookup m = data.extListInstances.lookup m :=
  lookup_insert_of_ne _ hne

theorem handle_withExt_of_ne {m : ℕ} (hne : m ≠ manager) :
    (withExt data manager handle).handle m = data.handle m := by
  unfold ToplevelData.handle
  rw [lookup_withExt_of_ne hne]
  rfl

end

omit [DecidableEq Client] [DecidableEq Output] in
theorem Inv.good_withExt (h : Inv owes w) (hlookup : w.toplevels.lookup surface = some data)
    (hnone : data.handle manager = none) (hclient : manager ∈ w.clients) :
    w.Good owes (update w.nextHandle manager (w.nextHandle manager + 1)) surface
      (withExt data manager (w.nextHandle manager)) where
  texts := by
    have htexts := h.texts_of_lookup hlookup
    exact htexts
  apart := by
    intro m hsome
    by_cases hm : m = manager
    · rw [hm]
      exact (handle_eq_none_iff.mp hnone).2
    · rw [lookup_withExt_of_ne hm] at hsome
      exact h.apart surface data m hlookup hsome
  fresh := by
    intro m handle hsome
    by_cases hm : m = manager
    · subst hm
      rw [handle_withExt, some.injEq] at hsome
      rw [update_self, ← hsome]
      exact lt_succ_self _
    · rw [handle_withExt_of_ne hm] at hsome
      rw [update_of_ne hm]
      exact h.fresh surface data m handle hlookup hsome
  unbound := by
    intro m hm
    have hne : m ≠ manager := by
      rintro rfl
      exact hm hclient
    rw [handle_withExt_of_ne hne]
    exact h.unbound surface data m hlookup hm
  extTold := by
    intro m hmem
    by_cases hm : m = manager
    · subst hm
      unfold withExt
      rw [lookup_insert]
      nofun
    · rw [lookup_withExt_of_ne hm]
      exact h.extTold surface data m hlookup hmem
  wlrTold := fun m => h.wlrTold surface data m hlookup
  outputs := fun m handle outputs => h.outputs surface data m handle outputs hlookup
  exclusive := by
    have hexclusive := h.exclusive_of_lookup hlookup
    exact hexclusive

omit [DecidableEq Surface] [DecidableEq Client] [DecidableEq Output] in
theorem le_update_nextHandle (w : World Surface Client Output) (manager m : ℕ) :
    w.nextHandle m ≤ update w.nextHandle manager (w.nextHandle manager + 1) m := by
  by_cases hm : m = manager
  · subst hm
    rw [update_self]
    exact le_succ _
  · rw [update_of_ne hm]

omit [DecidableEq Client] [DecidableEq Output] in
theorem Inv.addExtInstance (h : Inv owes w) (hlookup : w.toplevels.lookup surface = some data)
    (hnone : data.handle manager = none) (hclient : manager ∈ w.clients) :
    Inv owes (w.addExtInstance manager surface) := by
  unfold World.addExtInstance
  rw [hlookup]
  refine h.insert (h.good_withExt hlookup hnone hclient) (fun _ _ _ => Iff.rfl)
    (w.le_update_nextHandle manager) fun m => ?_
  show Keeps (update (w.book m) surface
    (((withExt data manager (w.nextHandle manager)).handle m).map fun handle =>
      (handle, Tells w.wlOutputs w.nextWlOutput m (withExt data manager (w.nextHandle manager))))) _
  by_cases hm : m = manager
  · subst hm
    have hbook : w.book m surface = none := by
      rw [book_of_lookup hlookup, hnone, map_none]
    rw [handle_withExt, map_some, update_self]
    exact h.introduce_ext hbook (handle_eq_none_iff.mp hnone).2
  · rw [update_of_ne hm]
    exact h.keeps_same hlookup (handle_withExt_of_ne hm) fun shown =>
      ⟨fun ht => ⟨ht.title, ht.appId, ht.ext, ht.wlr, ht.bound⟩,
        fun ht => ⟨ht.title, ht.appId, ht.ext, ht.wlr, ht.bound⟩⟩

/-- A toplevel with a handle of one more wlr-foreign-toplevel-management. -/
def withWlr (data : ToplevelData Output) (manager handle : ℕ) (outputs : List ℕ) :
    ToplevelData Output :=
  { data with
    wlrManagementInstances := data.wlrManagementInstances.insert manager (handle, outputs) }

section

omit [DecidableEq Surface] [DecidableEq Client] [DecidableEq Output]

theorem lookup_withWlr (handle : ℕ) (outputs : List ℕ) :
    (withWlr data manager handle outputs).wlrManagementInstances.lookup manager =
      some (handle, outputs) :=
  lookup_insert _

theorem lookup_withWlr_of_ne {m : ℕ} (hne : m ≠ manager) :
    (withWlr data manager handle outputs).wlrManagementInstances.lookup m =
      data.wlrManagementInstances.lookup m :=
  lookup_insert_of_ne _ hne

theorem handle_withWlr (handle : ℕ) (outputs : List ℕ)
    (hext : data.extListInstances.lookup manager = none) :
    (withWlr data manager handle outputs).handle manager = some handle := by
  unfold ToplevelData.handle
  rw [lookup_withWlr]
  show (data.extListInstances.lookup manager).or (some handle) = some handle
  rw [hext, none_or]

theorem handle_withWlr_of_ne {m : ℕ} (hne : m ≠ manager) :
    (withWlr data manager handle outputs).handle m = data.handle m := by
  unfold ToplevelData.handle
  rw [lookup_withWlr_of_ne hne]
  rfl

end

theorem Inv.good_withWlr (h : Inv (fun _ _ => False) w)
    (hlookup : w.toplevels.lookup surface = some data)
    (hnone : data.handle manager = none) (hclient : manager ∈ w.clients) :
    w.Good (fun _ _ => False)
      (update w.nextHandle manager (w.nextHandle manager + 1)) surface
      (withWlr data manager (w.nextHandle manager) (w.clientOutputs manager data.output)) where
  texts := by
    have htexts := h.texts_of_lookup hlookup
    exact htexts
  apart := by
    intro m hsome
    by_cases hm : m = manager
    · exact absurd (hm ▸ (handle_eq_none_iff.mp hnone).1) hsome
    · rw [lookup_withWlr_of_ne hm]
      exact h.apart surface data m hlookup hsome
  fresh := by
    intro m handle hsome
    by_cases hm : m = manager
    · subst hm
      rw [handle_withWlr _ _ (handle_eq_none_iff.mp hnone).1, some.injEq] at hsome
      rw [update_self, ← hsome]
      exact lt_succ_self _
    · rw [handle_withWlr_of_ne hm] at hsome
      rw [update_of_ne hm]
      exact h.fresh surface data m handle hlookup hsome
  unbound := by
    intro m hm
    have hne : m ≠ manager := by
      rintro rfl
      exact hm hclient
    rw [handle_withWlr_of_ne hne]
    exact h.unbound surface data m hlookup hm
  extTold := fun m => h.extTold surface data m hlookup
  wlrTold := by
    intro m hmem
    by_cases hm : m = manager
    · subst hm
      rw [lookup_withWlr]
      nofun
    · rw [lookup_withWlr_of_ne hm]
      exact h.wlrTold surface data m hlookup hmem
  outputs := by
    intro m handle outputs hinstance
    by_cases hm : m = manager
    · subst hm
      rw [lookup_withWlr, some.injEq, Prod.mk.injEq] at hinstance
      obtain ⟨-, rfl⟩ := hinstance
      refine ⟨fun x hx => ?_, lt_of_mem_clientOutputs h⟩
      rw [mem_clientOutputs h.wlOutputs.1 hx]
      simp [withWlr]
    · rw [lookup_withWlr_of_ne hm] at hinstance
      exact h.outputs surface data m handle outputs hlookup hinstance
  exclusive := by
    have hexclusive := h.exclusive_of_lookup hlookup
    exact hexclusive

theorem Inv.addWlrInstance (h : Inv (fun _ _ => False) w)
    (hlookup : w.toplevels.lookup surface = some data)
    (hnone : data.handle manager = none) (hclient : manager ∈ w.clients) :
    Inv (fun _ _ => False) (w.addWlrInstance manager surface) := by
  unfold World.addWlrInstance
  rw [hlookup]
  refine h.insert (h.good_withWlr hlookup hnone hclient) (fun _ _ _ => Iff.rfl)
    (w.le_update_nextHandle manager) fun m => ?_
  show Keeps (update (w.book m) surface
    (((withWlr data manager (w.nextHandle manager)
      (w.clientOutputs manager data.output)).handle m).map fun handle =>
        (handle, Tells w.wlOutputs w.nextWlOutput m (withWlr data manager (w.nextHandle manager)
          (w.clientOutputs manager data.output))))) _
  by_cases hm : m = manager
  · subst hm
    have hbook : w.book m surface = none := by
      rw [book_of_lookup hlookup, hnone, map_none]
    rw [handle_withWlr _ _ (handle_eq_none_iff.mp hnone).1, map_some, update_self]
    have hexclusive := h.exclusive_of_lookup hlookup
    exact h.introduce_wlr hbook (lookup_withWlr _ _) (lt_of_mem_clientOutputs h) hexclusive
  · rw [update_of_ne hm]
    refine h.keeps_same hlookup (handle_withWlr_of_ne hm) fun shown => ⟨fun ht => ?_, fun ht => ?_⟩
    · exact ⟨ht.title, ht.appId, fun hn => ht.ext (by rwa [lookup_withWlr_of_ne hm] at hn),
        fun handle outputs hs => ht.wlr handle outputs (by rwa [lookup_withWlr_of_ne hm] at hs),
        ht.bound⟩
    · exact ⟨ht.title, ht.appId, fun hn => ht.ext (by rwa [lookup_withWlr_of_ne hm]),
        fun handle outputs hs => ht.wlr handle outputs (by rwa [lookup_withWlr_of_ne hm]),
        ht.bound⟩

/-! ### Going through the toplevels -/

section

omit [DecidableEq Client] [DecidableEq Output]

/-- A loop over items with surfaces of their own, each of whose steps changes only the toplevel of
its item. -/
theorem foldl_each {β : Type} {key : β → Surface}
    {f : World Surface Client Output → β → World Surface Client Output}
    {I : List β → World Surface Client Output → Prop}
    {P Q : β → Option (ToplevelData Output) → Prop}
    (hstep : ∀ w item rest, I (item :: rest) w → key item ∉ rest.map key →
      P item (w.toplevels.lookup (key item)) →
      I rest (f w item) ∧ Q item ((f w item).toplevels.lookup (key item)) ∧
        ∀ surface', surface' ≠ key item →
          (f w item).toplevels.lookup surface' = w.toplevels.lookup surface')
    {items : List β} (hnodup : (items.map key).Nodup) {w : World Surface Client Output}
    (hI : I items w) (hpre : ∀ item ∈ items, P item (w.toplevels.lookup (key item))) :
    I [] (items.foldl f w) ∧
      (∀ item ∈ items, Q item ((items.foldl f w).toplevels.lookup (key item))) ∧
      ∀ surface, surface ∉ items.map key →
        (items.foldl f w).toplevels.lookup surface = w.toplevels.lookup surface := by
  induction items generalizing w with
  | nil => exact ⟨hI, nofun, fun _ _ => rfl⟩
  | cons item rest ih =>
    obtain ⟨hnotMem, hnodup⟩ := nodup_cons.mp hnodup
    obtain ⟨hI', hpost, hother⟩ :=
      hstep w item rest hI hnotMem (hpre item (mem_cons.mpr (.inl rfl)))
    have hpre' : ∀ item' ∈ rest, P item' ((f w item).toplevels.lookup (key item')) := by
      intro item' hmem
      rw [hother (key item') fun heq => hnotMem (heq ▸ mem_map_of_mem hmem)]
      exact hpre item' (mem_cons_of_mem _ hmem)
    obtain ⟨hend, hposts, hrest⟩ := ih hnodup hI' hpre'
    rw [foldl_cons]
    refine ⟨hend, fun item' hmem => ?_, fun surface hmem => ?_⟩
    · rcases mem_cons.mp hmem with rfl | hmem
      · rw [hrest (key item') hnotMem]
        exact hpost
      · exact hposts item' hmem
    · obtain ⟨hne, hmem⟩ := not_or.mp (mem_cons.not.mp hmem)
      rw [hrest surface hmem, hother surface hne]

/-- A manager that was not bound before is bound. -/
theorem Inv.insertClient (h : Inv owes w) (hmanager : manager ∉ w.clients) (client : Client) :
    Inv owes { w with clients := w.clients.insert manager client } :=
  { h with
    unbound := by
      intro surface data m hlookup hm
      exact h.unbound surface data m hlookup fun hmem => hm (mem_insert.mpr (.inr hmem))
    managers := fun m hm => mem_insert.mpr (.inr (h.managers m hm))
    outputs := by
      intro surface data m handle outputs hlookup hinstance
      have hne : m ≠ manager := by
        rintro rfl
        have hnone := h.unbound surface data m hlookup hmanager
        rw [(handle_eq_none_iff.mp hnone).2] at hinstance
        cases hinstance
      rw [lookup_insert_of_ne _ hne]
      exact h.outputs surface data m handle outputs hlookup hinstance }

end

end World

end Tiri.Protocols.ForeignToplevel
