import Tiri.Lib.Run
import Tiri.Protocols.ToplevelInvariant

/-!
# Clients and the windows of the layout

What the clients of the foreign toplevel protocols know, along any run.

Results:
* `World.step_inv`: every step keeps each client at what is tracked of the windows, with at most one
  toplevel activated after every event;
* `World.synced_refresh`: a refresh tracks the windows of the layout;
* `toplevels_mirrored`: after a refresh, each client knows the windows of the layout.
-/

namespace Tiri.Protocols.ForeignToplevel

open Run View Option Nat
open List hiding map_map
open Finmap hiding mem_singleton

variable {Surface Client Output : Type}

namespace World

variable [DecidableEq Surface] [DecidableEq Client] [DecidableEq Output]
variable {w w' : World Surface Client Output} {owes owes' : Surface → ℕ → Prop} {surface : Surface}
variable {data : ToplevelData Output} {manager : ℕ}

/-! ## Managers -/

omit [DecidableEq Client] [DecidableEq Output] in
theorem lookup_addExtInstance (w : World Surface Client Output) (manager : ℕ) (surface : Surface) :
    (w.addExtInstance manager surface).toplevels.lookup surface =
      (w.toplevels.lookup surface).map fun data =>
        withExt data manager (w.nextHandle manager) := by
  unfold addExtInstance
  cases hlookup : w.toplevels.lookup surface with
  | none => exact hlookup
  | some data => exact lookup_insert _

variable {surface' : Surface} {order : List Surface} {wlOutput : WlOutput Client Output}
variable {win : Window Surface Output} {hasFocus : Bool}

omit [DecidableEq Client] [DecidableEq Output] in
theorem lookup_addExtInstance_of_ne (hne : surface' ≠ surface) :
    (w.addExtInstance manager surface).toplevels.lookup surface' = w.toplevels.lookup surface' := by
  unfold addExtInstance
  cases w.toplevels.lookup surface with
  | none => rfl
  | some data => exact lookup_insert_of_ne _ hne

theorem lookup_addWlrInstance (w : World Surface Client Output) (manager : ℕ) (surface : Surface) :
    (w.addWlrInstance manager surface).toplevels.lookup surface =
      (w.toplevels.lookup surface).map fun data =>
        withWlr data manager (w.nextHandle manager) (w.clientOutputs manager data.output) := by
  unfold addWlrInstance
  cases hlookup : w.toplevels.lookup surface with
  | none => exact hlookup
  | some data => exact lookup_insert _

theorem lookup_addWlrInstance_of_ne (hne : surface' ≠ surface) :
    (w.addWlrInstance manager surface).toplevels.lookup surface' = w.toplevels.lookup surface' := by
  unfold addWlrInstance
  cases w.toplevels.lookup surface with
  | none => rfl
  | some data => exact lookup_insert_of_ne _ hne

/-- While a new manager is told of the toplevels. -/
structure Binding (w : World Surface Client Output) (manager : ℕ)
    (w' : World Surface Client Output) : Prop where
  inv : Inv (fun _ _ => False) w'
  client : manager ∈ w'.clients
  ext : w'.extListInstances = w.extListInstances
  wlr : w'.wlrManagementInstances = w.wlrManagementInstances

section

omit [DecidableEq Client] [DecidableEq Output]

theorem Inv.binding (h : Inv (fun _ _ => False) w) (hmanager : manager ∉ w.clients)
    (client : Client) :
    Binding w manager { w with clients := w.clients.insert manager client } where
  inv := h.insertClient hmanager client
  client := mem_insert.mpr (.inl rfl)
  ext := rfl
  wlr := rfl

theorem Binding.addExtInstance (h : Binding w manager w')
    (hnone : ∀ data, w'.toplevels.lookup surface = some data → data.handle manager = none) :
    Binding w manager (w'.addExtInstance manager surface) := by
  cases hlookup : w'.toplevels.lookup surface with
  | none =>
    have hsame : w'.addExtInstance manager surface = w' := by
      unfold World.addExtInstance
      rw [hlookup]
    rw [hsame]
    exact h
  | some data =>
    refine ⟨h.inv.addExtInstance hlookup (hnone data hlookup) h.client, ?_, ?_, ?_⟩ <;>
      unfold World.addExtInstance <;> rw [hlookup]
    · exact h.client
    · exact h.ext
    · exact h.wlr

end

theorem Binding.addWlrInstance (h : Binding w manager w')
    (hnone : ∀ data, w'.toplevels.lookup surface = some data → data.handle manager = none) :
    Binding w manager (w'.addWlrInstance manager surface) := by
  cases hlookup : w'.toplevels.lookup surface with
  | none =>
    have hsame : w'.addWlrInstance manager surface = w' := by
      unfold World.addWlrInstance
      rw [hlookup]
    rw [hsame]
    exact h
  | some data =>
    refine ⟨h.inv.addWlrInstance hlookup (hnone data hlookup) h.client, ?_, ?_, ?_⟩ <;>
      unfold World.addWlrInstance <;> rw [hlookup]
    · exact h.client
    · exact h.ext
    · exact h.wlr

/-- The toplevel has no handle for a manager. -/
def Untold (manager : ℕ) (_ : Surface) (entry : Option (ToplevelData Output)) : Prop :=
  ∀ data, entry = some data → data.handle manager = none

section

omit [DecidableEq Client] [DecidableEq Output]

/-- A new manager is added to the ones of its protocol. -/
theorem Binding.notMem (h : Inv owes w) (hmanager : manager ∉ w.clients) :
    manager ∉ w.extListInstances ∧ manager ∉ w.wlrManagementInstances :=
  ⟨fun hmem => hmanager (h.managers manager (.inl hmem)),
    fun hmem => hmanager (h.managers manager (.inr hmem))⟩

/-- What each toplevel of the order was told, each tracked toplevel was. -/
theorem of_lookup_of_order {P : Surface → Option (ToplevelData Output) → Prop}
    (horder : HashMap.Lists order w.toplevels)
    (hpost : ∀ surface ∈ order, P surface (w'.toplevels.lookup surface))
    (hother : ∀ surface, surface ∉ order.map id →
      w'.toplevels.lookup surface = w.toplevels.lookup surface)
    (hlookup : w'.toplevels.lookup surface = some data) : P surface (some data) := by
  rw [List.map_id] at hother
  by_cases hmem : surface ∈ order
  · rw [← hlookup]
    exact hpost surface hmem
  · have hsame := hother surface hmem
    rw [horder.mem_iff] at hmem
    rw [lookup_eq_none.mpr hmem, hlookup] at hsame
    cases hsame

/-- A new manager is told of every toplevel, one after another. -/
theorem Binding.foldl {add : World Surface Client Output → Surface → World Surface Client Output}
    {T : ToplevelData Output → Prop} (hadd : ∀ w' surface, Binding w manager w' →
      Untold manager surface (w'.toplevels.lookup surface) → Binding w manager (add w' surface))
    (htold : ∀ w' surface data, (add w' surface).toplevels.lookup surface = some data → T data)
    (hother : ∀ w' surface surface', surface' ≠ surface →
      (add w' surface).toplevels.lookup surface' = w'.toplevels.lookup surface')
    (h : Inv (fun _ _ => False) w) (client : Client) (hmanager : manager ∉ w.clients)
    (horder : HashMap.Lists order w.toplevels) :
    let w' := order.foldl add { w with clients := w.clients.insert manager client }
    Binding w manager w' ∧
      ∀ surface data, w'.toplevels.lookup surface = some data → T data := by
  obtain ⟨hbinding, hpost, hsame⟩ := foldl_each (I := fun _ => Binding w manager)
    (P := Untold manager) (Q := fun _ entry => ∀ data, entry = some data → T data)
    (fun w' surface _ hbinding _ hnone =>
      ⟨hadd w' surface hbinding hnone, htold w' surface, hother w' surface⟩)
    ((List.map_id order).symm ▸ horder.1) (h.binding hmanager client)
    fun surface _ data hlookup => h.unbound surface data manager hlookup hmanager
  exact ⟨hbinding, fun surface data hlookup =>
    of_lookup_of_order (P := fun _ entry => ∀ data, entry = some data → T data) horder hpost hsame
      hlookup data rfl⟩

theorem Inv.bindExtList (h : Inv (fun _ _ => False) w) {client : Client}
    (hmanager : manager ∉ w.clients) (horder : HashMap.Lists order w.toplevels) :
    Inv (fun _ _ => False) (w.bindExtList manager client order) := by
  obtain ⟨hbinding, htold⟩ := Binding.foldl
    (T := fun data => data.extListInstances.lookup manager ≠ none)
    (fun w' surface hbinding hnone => hbinding.addExtInstance hnone)
    (fun w' surface data hdata => by
      rw [lookup_addExtInstance] at hdata
      obtain ⟨data', -, rfl⟩ := map_eq_some_iff.mp hdata
      unfold withExt
      rw [lookup_insert]
      nofun)
    (fun w' surface surface' hne => lookup_addExtInstance_of_ne hne) h client hmanager horder
  obtain ⟨-, hwlr⟩ := Binding.notMem h hmanager
  exact { hbinding.inv with
    managers := by
      intro m hm
      rcases hm.imp_left Finset.mem_insert.mp with (rfl | hm) | hm
      · exact hbinding.client
      · exact hbinding.inv.managers m (.inl hm)
      · exact hbinding.inv.managers m (.inr hm)
    disjoint := by
      intro m hm hm'
      rcases Finset.mem_insert.mp hm with rfl | hm
      · exact hwlr (hbinding.wlr ▸ hm')
      · exact hbinding.inv.disjoint m hm hm'
    extTold := by
      intro surface data m hlookup hm
      rcases Finset.mem_insert.mp hm with rfl | hm
      · exact htold surface data hlookup
      · exact hbinding.inv.extTold surface data m hlookup hm }

end

theorem Inv.bindWlrManagement (h : Inv (fun _ _ => False) w) {client : Client}
    (hmanager : manager ∉ w.clients) (horder : HashMap.Lists order w.toplevels) :
    Inv (fun _ _ => False) (w.bindWlrManagement manager client order) := by
  obtain ⟨hbinding, htold⟩ := Binding.foldl
    (T := fun data => data.wlrManagementInstances.lookup manager ≠ none)
    (fun w' surface hbinding hnone => hbinding.addWlrInstance hnone)
    (fun w' surface data hdata => by
      rw [lookup_addWlrInstance] at hdata
      obtain ⟨data', -, rfl⟩ := map_eq_some_iff.mp hdata
      rw [lookup_withWlr]
      nofun)
    (fun w' surface surface' hne => lookup_addWlrInstance_of_ne hne) h client hmanager horder
  obtain ⟨hext, -⟩ := Binding.notMem h hmanager
  exact { hbinding.inv with
    managers := by
      intro m hm
      rcases hm.imp_right Finset.mem_insert.mp with hm | rfl | hm
      · exact hbinding.inv.managers m (.inl hm)
      · exact hbinding.client
      · exact hbinding.inv.managers m (.inr hm)
    disjoint := by
      intro m hm hm'
      rcases Finset.mem_insert.mp hm' with rfl | hm'
      · exact hext (hbinding.ext ▸ hm)
      · exact hbinding.inv.disjoint m hm hm'
    wlrTold := by
      intro surface data m hlookup hm
      rcases Finset.mem_insert.mp hm with rfl | hm
      · exact htold surface data hlookup
      · exact hbinding.inv.wlrTold surface data m hlookup hm }

omit [DecidableEq Client] [DecidableEq Output] in
theorem Inv.stop (h : Inv owes w) (manager : ℕ) : Inv owes (w.stop manager) :=
  { h with
    managers := fun m hm =>
      h.managers m (hm.imp (fun hm => Finset.mem_of_mem_erase hm) fun hm => Finset.mem_of_mem_erase hm)
    disjoint := fun m hm hm' =>
      h.disjoint m (Finset.mem_of_mem_erase hm) (Finset.mem_of_mem_erase hm')
    extTold := fun surface data m hlookup hm =>
      h.extTold surface data m hlookup (Finset.mem_of_mem_erase hm)
    wlrTold := fun surface data m hlookup hm =>
      h.wlrTold surface data m hlookup (Finset.mem_of_mem_erase hm) }

/-! ## Outputs -/

section

omit [DecidableEq Client] [DecidableEq Output]

/-- The book says less of the outputs. -/
theorem Inv.keeps_mono (h : Inv owes w) {wlOutputs : List (WlOutput Client Output)}
    {nextWlOutput : ℕ}
    (htells : ∀ surface data, w.toplevels.lookup surface = some data → ∀ shown,
      Tells w.wlOutputs w.nextWlOutput manager data shown →
        Tells wlOutputs nextWlOutput manager data shown) :
    Keeps (({ w with wlOutputs, nextWlOutput } : World Surface Client Output).book manager)
      (w.log manager) := by
  refine (h.keeps manager).mono (fun surface hnone => ?_) fun surface handle P hbook => ?_
  · unfold book at hnone ⊢
    cases hlookup : w.toplevels.lookup surface with
    | none => rfl
    | some data =>
      rw [hlookup, bind_some, map_eq_none_iff] at hnone
      rw [bind_some, hnone, map_none]
  · obtain ⟨data, hlookup, hmap⟩ := bind_eq_some_iff.mp hbook
    obtain ⟨handle', hhandle, heq⟩ := map_eq_some_iff.mp hmap
    cases heq
    refine ⟨_, ?_, htells surface data hlookup⟩
    unfold book
    rw [hlookup, bind_some, hhandle, map_some]

theorem Inv.destroyOutput (h : Inv owes w) (wlOutput : ℕ) : Inv owes (w.destroyOutput wlOutput) :=
  { h with
    keeps := fun _ => h.keeps_mono fun _ _ _ _ htells => {
      title := htells.title
      appId := htells.appId
      ext := htells.ext
      wlr := fun handle outputs hinstance => (htells.wlr handle outputs hinstance).imp_right
        fun houtputs x hx => houtputs x (mem_filter.mp hx).1
      bound := htells.bound }
    outputs := fun surface data manager handle outputs hlookup hinstance =>
      (h.outputs surface data manager handle outputs hlookup hinstance).imp_left
        fun houtputs x hx => houtputs x (mem_filter.mp hx).1
    wlOutputs := ⟨h.wlOutputs.1.sublist (filter_sublist.map _),
      fun x hx => h.wlOutputs.2 x (mem_filter.mp hx).1⟩ }

end

/-- The surfaces that `on_output_bound` has still to look at are not told of the new `wl_output`. -/
def Remaining (wlOutput : WlOutput Client Output) (rest : List Surface) (surface : Surface)
    (id : ℕ) : Prop :=
  surface ∈ rest ∧ id = wlOutput.id

section

omit [DecidableEq Client] [DecidableEq Output]

/-- What is owed of the outputs matters only where they would be entered. -/
theorem Inv.congr (h : Inv owes w)
    (howes : ∀ surface data x, w.toplevels.lookup surface = some data → x ∈ w.wlOutputs →
      data.output = some x.output → (owes surface x.id ↔ owes' surface x.id)) : Inv owes' w :=
  { h with
    outputs := fun surface data manager handle outputs hlookup hinstance =>
      (h.outputs surface data manager handle outputs hlookup hinstance).imp_left
        fun houtputs x hx => (houtputs x hx).trans (and_congr_right fun _ =>
          and_congr_right fun houtput => not_congr (howes surface data x hlookup hx houtput)) }

/-- A new `wl_output`, of which no toplevel was told yet. -/
theorem Inv.newOutput (h : Inv (fun _ _ => False) w) (horder : HashMap.Lists order w.toplevels)
    (client : Client) (output : Output) :
    Inv (Remaining ⟨w.nextWlOutput, client, output⟩ order)
      { w with
        wlOutputs := w.wlOutputs ++ [⟨w.nextWlOutput, client, output⟩]
        nextWlOutput := w.nextWlOutput + 1 } :=
  { h with
    keeps := by
      intro manager
      refine h.keeps_mono fun surface data hlookup shown htells => ?_
      refine ⟨htells.title, htells.appId, htells.ext, fun handle outputs hinstance => ?_,
        fun id hid => lt_succ_of_lt (htells.bound id hid)⟩
      obtain ⟨hstates, houtputs⟩ := htells.wlr handle outputs hinstance
      refine ⟨hstates, fun x hx => ?_⟩
      rcases mem_append.mp hx with hx | hx
      · exact houtputs x hx
      · rw [mem_singleton.mp hx]
        have hlt := (h.outputs surface data manager handle outputs hlookup hinstance).2
        exact iff_of_false (fun hid => lt_irrefl _ (htells.bound _ hid))
          fun hid => lt_irrefl _ (hlt _ hid)
    outputs := by
      intro surface data manager handle outputs hlookup hinstance
      obtain ⟨houtputs, hlt⟩ := h.outputs surface data manager handle outputs hlookup hinstance
      refine ⟨fun x hx => ?_, fun id hid => lt_succ_of_lt (hlt id hid)⟩
      rcases mem_append.mp hx with hx | hx
      · have hne : ¬ Remaining ⟨w.nextWlOutput, client, output⟩ order surface x.id :=
          fun howes => (h.wlOutputs.2 x hx).ne howes.2
        rw [houtputs x hx]
        exact and_congr_right fun _ => and_congr_right fun _ => iff_of_true not_false hne
      · rw [mem_singleton.mp hx]
        have hmem : surface ∈ order :=
          horder.mem_iff.mpr (mem_of_lookup_eq_some hlookup)
        exact iff_of_false (fun hid => lt_irrefl _ (hlt _ hid)) fun hnot => hnot.2.2 ⟨hmem, rfl⟩
    wlOutputs := by
      constructor
      · rw [map_append, nodup_append]
        refine ⟨h.wlOutputs.1, nodup_singleton _, fun id hid id' hid' => ?_⟩
        obtain ⟨x, hx, rfl⟩ := mem_map.mp hid
        rw [mem_singleton.mp hid']
        exact (h.wlOutputs.2 x hx).ne
      · intro x hx
        rcases mem_append.mp hx with hx | hx
        · exact lt_succ_of_lt (h.wlOutputs.2 x hx)
        · rw [mem_singleton.mp hx]
          exact lt_succ_self _ }

end

/-- A toplevel on the output of a new `wl_output`. -/
def entered (w : World Surface Client Output) (wlOutput : WlOutput Client Output)
    (data : ToplevelData Output) : ToplevelData Output :=
  { data with
    wlrManagementInstances := HashMap.mapEntries (fun manager (instance_, outputs) =>
      if w.clients.lookup manager = some wlOutput.client then
        (instance_, outputs ++ [wlOutput.id])
      else (instance_, outputs)) data.wlrManagementInstances }

section

omit [DecidableEq Surface] [DecidableEq Output]

theorem lookup_entered :
    (w.entered wlOutput data).wlrManagementInstances.lookup manager =
      (data.wlrManagementInstances.lookup manager).map fun (instance_, outputs) =>
        if w.clients.lookup manager = some wlOutput.client then
          (instance_, outputs ++ [wlOutput.id])
        else (instance_, outputs) :=
  HashMap.lookup_mapEntries ..

theorem handle_entered : (w.entered wlOutput data).handle manager = data.handle manager := by
  unfold ToplevelData.handle
  rw [lookup_entered, map_map]
  congr 2
  funext entry
  show (if w.clients.lookup manager = some wlOutput.client then _ else _ : ℕ × List ℕ).1 = entry.1
  split <;> rfl

/-- Only the instances of the client get the `wl_output`. -/
theorem lookup_entered_of_ne (hclient : w.clients.lookup manager ≠ some wlOutput.client) :
    (w.entered wlOutput data).wlrManagementInstances.lookup manager =
      data.wlrManagementInstances.lookup manager := by
  rw [lookup_entered]
  simp only [if_neg hclient]
  exact map_id'

theorem lookup_entered_of_eq (hclient : w.clients.lookup manager = some wlOutput.client) :
    (w.entered wlOutput data).wlrManagementInstances.lookup manager =
      (data.wlrManagementInstances.lookup manager).map fun (instance_, outputs) =>
        (instance_, outputs ++ [wlOutput.id]) := by
  rw [lookup_entered]
  simp only [if_pos hclient]

end

variable {rest : List Surface}

omit [DecidableEq Output] in
theorem Inv.good_entered (h : Inv (Remaining wlOutput (surface :: rest)) w)
    (hmem : wlOutput ∈ w.wlOutputs) (hsurface : surface ∉ rest)
    (hlookup : w.toplevels.lookup surface = some data)
    (houtput : data.output = some wlOutput.output) :
    w.Good (Remaining wlOutput rest) w.nextHandle surface (w.entered wlOutput data) where
  texts := by
    have htexts := h.texts_of_lookup hlookup
    exact htexts
  apart := by
    intro m hsome
    rw [lookup_entered, h.apart surface data m hlookup hsome, map_none]
  fresh := by
    intro m handle hsome
    rw [handle_entered] at hsome
    exact h.fresh surface data m handle hlookup hsome
  unbound := by
    intro m hm
    rw [handle_entered]
    exact h.unbound surface data m hlookup hm
  extTold := fun m => h.extTold surface data m hlookup
  wlrTold := by
    intro m hm
    rw [lookup_entered, ne_eq, map_eq_none_iff]
    exact h.wlrTold surface data m hlookup hm
  outputs := by
    intro m handle outputs hinstance
    have hnot : ∀ id, ¬ Remaining wlOutput rest surface id := fun id howes => hsurface howes.1
    by_cases hclient : w.clients.lookup m = some wlOutput.client
    · rw [lookup_entered_of_eq hclient] at hinstance
      obtain ⟨⟨handle', outputs'⟩, hinstance', heq⟩ := map_eq_some_iff.mp hinstance
      rw [Prod.mk.injEq] at heq
      obtain ⟨-, rfl⟩ := heq
      obtain ⟨houtputs, hlt⟩ := h.outputs surface data m handle' outputs' hlookup hinstance'
      refine ⟨fun x hx => ?_, fun id hid => ?_⟩
      · rw [mem_append, mem_singleton]
        by_cases heq : x.id = wlOutput.id
        · rw [inj_on_of_nodup_map h.wlOutputs.1 hx hmem heq]
          exact iff_of_true (.inr rfl) ⟨hclient, houtput, hnot _⟩
        · rw [houtputs x hx]
          have hother : ¬ Remaining wlOutput (surface :: rest) surface x.id :=
            fun howes => heq howes.2
          simp only [heq, or_false, hother, hnot, not_false_eq_true, and_true]
          rfl
      · rcases mem_append.mp hid with hid | hid
        · exact hlt id hid
        · rw [mem_singleton.mp hid]
          exact h.wlOutputs.2 wlOutput hmem
    · rw [lookup_entered_of_ne hclient] at hinstance
      obtain ⟨houtputs, hlt⟩ := h.outputs surface data m handle outputs hlookup hinstance
      refine ⟨fun x hx => (houtputs x hx).trans ?_, hlt⟩
      refine and_congr_right fun hx' => and_congr_right fun _ => ?_
      refine iff_of_true (fun howes => hclient ?_) (hnot _)
      rw [hx', inj_on_of_nodup_map h.wlOutputs.1 hx hmem howes.2]
  exclusive := by
    have hexclusive := h.exclusive_of_lookup hlookup
    exact hexclusive

theorem Inv.keeps_entered (h : Inv owes w) (hmem : wlOutput ∈ w.wlOutputs)
    (hlookup : w.toplevels.lookup surface = some data)
    (houtput : data.output = some wlOutput.output) (manager : ℕ) :
    Keeps (Function.update (w.book manager) surface
        (((w.entered wlOutput data).handle manager).map fun handle =>
          (handle, Tells w.wlOutputs w.nextWlOutput manager (w.entered wlOutput data))))
      ((w.enterOutput wlOutput surface).log manager) := by
  unfold World.enterOutput
  rw [hlookup]
  dsimp only
  rw [if_neg (not_not.mpr houtput)]
  dsimp only
  cases hwlr : data.wlrManagementInstances.lookup manager with
  | none =>
    rw [append_nil]
    refine h.keeps_same hlookup handle_entered fun shown => ⟨fun ht => ?_, fun ht => ?_⟩
    · refine ⟨ht.title, ht.appId, fun _ => ht.ext hwlr, fun handle outputs hs => ?_, ht.bound⟩
      rw [lookup_entered, hwlr] at hs
      cases hs
    · refine ⟨ht.title, ht.appId, fun _ => ht.ext ?_, fun handle outputs hs => ?_, ht.bound⟩
      · rw [lookup_entered, hwlr, map_none]
      · rw [hwlr] at hs
        cases hs
  | some entry =>
    obtain ⟨handle, outputs⟩ := entry
    dsimp only
    by_cases hclient : w.clients.lookup manager = some wlOutput.client
    · have hhandle : data.handle manager = some handle := by
        have hext : data.extListInstances.lookup manager = none := by
          by_contra hne
          rw [h.apart surface data manager hlookup hne] at hwlr
          cases hwlr
        unfold ToplevelData.handle
        rw [hext, hwlr, none_or, map_some]
      have hbook : w.book manager surface =
          some (handle, Tells w.wlOutputs w.nextWlOutput manager data) := by
        rw [book_of_lookup hlookup, hhandle, map_some]
      rw [if_pos hclient, handle_entered, hhandle, map_some]
      refine (h.keeps manager).change hbook (fun shown hshown => ?_) ?_
      · obtain ⟨hstates, houtputs⟩ := hshown.wlr handle outputs hwlr
        refine ⟨{ shown with outputs := shown.outputs ++ [wlOutput.id] }, rfl, hshown.title,
          hshown.appId, fun hnone => ?_, fun handle' outputs' hs => ⟨hstates, fun x hx => ?_⟩,
          fun id hid => ?_⟩
        · rw [lookup_entered, hwlr] at hnone
          cases hnone
        · rw [lookup_entered_of_eq hclient, hwlr, map_some, some.injEq, Prod.mk.injEq] at hs
          obtain ⟨-, rfl⟩ := hs
          rw [mem_append, mem_append, houtputs x hx]
        · rcases mem_append.mp hid with hid | hid
          · exact hshown.bound id hid
          · rw [mem_singleton.mp hid]
            exact h.wlOutputs.2 wlOutput hmem
      · by_cases hact : .activated ∈ data.states
        · exact .inr (alone_book (h.exclusive_of_lookup hlookup hact))
        · exact .inl ⟨fun shown hshown => hshown.not_activated hact, by simp⟩
    · rw [if_neg hclient, append_nil]
      refine h.keeps_same hlookup handle_entered fun shown => ⟨fun ht => ?_, fun ht => ?_⟩
      · exact ⟨ht.title, ht.appId, fun hn => ht.ext (by rwa [lookup_entered_of_ne hclient] at hn),
          fun m os hs => ht.wlr m os (by rwa [lookup_entered_of_ne hclient] at hs), ht.bound⟩
      · exact ⟨ht.title, ht.appId, fun hn => ht.ext (by rwa [lookup_entered_of_ne hclient]),
          fun m os hs => ht.wlr m os (by rwa [lookup_entered_of_ne hclient]), ht.bound⟩

theorem Inv.enterOutput (h : Inv (Remaining wlOutput (surface :: rest)) w)
    (hmem : wlOutput ∈ w.wlOutputs) (hsurface : surface ∉ rest) :
    Inv (Remaining wlOutput rest) (w.enterOutput wlOutput surface) := by
  cases hlookup : w.toplevels.lookup surface with
  | none =>
    unfold World.enterOutput
    rw [hlookup]
    refine h.congr fun surface' data' x hlookup' _ _ => ?_
    have hne : surface' ≠ surface := by
      rintro rfl
      rw [hlookup] at hlookup'
      cases hlookup'
    simp [Remaining, hne]
  | some data =>
    by_cases houtput : data.output = some wlOutput.output
    · have hkeeps := h.keeps_entered hmem hlookup houtput
      have heq : w.enterOutput wlOutput surface = { w with
          toplevels := w.toplevels.insert surface (w.entered wlOutput data)
          log := (w.enterOutput wlOutput surface).log } := by
        unfold World.enterOutput
        rw [hlookup]
        dsimp only
        rw [if_neg (not_not.mpr houtput)]
        rfl
      rw [heq]
      refine h.insert (h.good_entered hmem hsurface hlookup houtput) (fun surface' id hne => ?_)
        (fun _ => le_rfl) hkeeps
      simp [Remaining, hne]
    · unfold World.enterOutput
      rw [hlookup]
      dsimp only
      rw [if_pos houtput]
      refine h.congr fun surface' data' x hlookup' hx houtput' => ?_
      have hne : ¬ (surface' = surface ∧ x.id = wlOutput.id) := by
        rintro ⟨rfl, hid⟩
        rw [hlookup, some.injEq] at hlookup'
        subst hlookup'
        rw [inj_on_of_nodup_map h.wlOutputs.1 hx hmem hid] at houtput'
        exact houtput houtput'
      unfold Remaining
      rw [mem_cons]
      tauto

theorem Inv.bindOutput (h : Inv (fun _ _ => False) w) (horder : HashMap.Lists order w.toplevels)
    (client : Client) (output : Output) :
    Inv (fun _ _ => False) (w.bindOutput client output order) := by
  unfold World.bindOutput
  have hstart := h.newOutput horder client output
  have hmem : (⟨w.nextWlOutput, client, output⟩ : WlOutput Client Output) ∈
      w.wlOutputs ++ [⟨w.nextWlOutput, client, output⟩] :=
    mem_append_right _ (mem_singleton.mpr rfl)
  generalize (⟨w.nextWlOutput, client, output⟩ : WlOutput Client Output) = wlOutput at hstart hmem
  have hloop : ∀ (order : List Surface) w, order.Nodup → Inv (Remaining wlOutput order) w →
      wlOutput ∈ w.wlOutputs → Inv (Remaining wlOutput [])
        (order.foldl (fun w surface => w.enterOutput wlOutput surface) w) := by
    intro order
    induction order with
    | nil => exact fun w _ hinv _ => hinv
    | cons surface rest ih =>
      intro w hnodup hinv hmem
      obtain ⟨hsurface, hnodup⟩ := nodup_cons.mp hnodup
      refine ih _ hnodup (hinv.enterOutput hmem hsurface) ?_
      show wlOutput ∈ (w.enterOutput wlOutput surface).wlOutputs
      unfold World.enterOutput
      split
      · exact hmem
      · split
        · exact hmem
        · exact hmem
  exact (hloop order _ horder.1 hstart hmem).congr fun _ _ _ _ _ _ => by simp [Remaining]

/-! ## Refreshes -/

omit [DecidableEq Client] [DecidableEq Output] in
theorem Inv.layout (h : Inv owes w) {windows : List (Window Surface Output)}
    (hnodup : (windows.map Window.surface).Nodup) (htexts : windows.all w.keepsTexts = true)
    (keyboardFocus : Option Surface) : Inv owes { w with windows, keyboardFocus } :=
  { h with
    nodup := hnodup
    texts := all_eq_true.mp htexts }

/-- What is tracked of a window is as the window is. -/
structure Matches (win : Window Surface Output) (hasFocus : Bool) (data : ToplevelData Output) :
    Prop where
  title : data.title = win.title
  appId : data.appId = win.appId
  states : data.states = win.toStateVec hasFocus
  output : data.output = win.output

/-- The windows are tracked as they are, and nothing else is. -/
structure Synced (w : World Surface Client Output) : Prop where
  windows : ∀ win ∈ w.windows, ∃ data, w.toplevels.lookup win.surface = some data ∧
    Matches win (decide (w.keyboardFocus = some win.surface)) data
  only : ∀ surface, w.toplevels.lookup surface ≠ none → ∃ win ∈ w.windows, win.surface = surface

omit [DecidableEq Surface] [DecidableEq Client] [DecidableEq Output] in
theorem activated_mem_toStateVec : .activated ∈ win.toStateVec hasFocus ↔ hasFocus = true := by
  unfold Window.toStateVec
  cases win.maximized <;> cases win.fullscreen <;> cases hasFocus <;> simp

/-- While the toplevels are refreshed. -/
structure Refreshing (w w' : World Surface Client Output) : Prop where
  inv : Inv (fun _ _ => False) w'
  windows : w'.windows = w.windows
  keyboardFocus : w'.keyboardFocus = w.keyboardFocus

/-- The toplevel has a window. -/
def HasWindow (w : World Surface Client Output) (surface : Surface)
    (entry : Option (ToplevelData Output)) : Prop :=
  entry ≠ none → ∃ win ∈ w.windows, win.surface = surface

section

omit [DecidableEq Client] [DecidableEq Output]

theorem lookup_closeToplevel (w : World Surface Client Output) (surface : Surface) :
    (w.closeToplevel surface).toplevels.lookup surface = none := by
  unfold closeToplevel
  cases hlookup : w.toplevels.lookup surface with
  | none => exact hlookup
  | some data => exact lookup_erase _ _

theorem lookup_closeToplevel_of_ne (hne : surface' ≠ surface) :
    (w.closeToplevel surface).toplevels.lookup surface' = w.toplevels.lookup surface' := by
  unfold closeToplevel
  cases w.toplevels.lookup surface with
  | none => rfl
  | some data => exact lookup_erase_ne hne

theorem Refreshing.closeToplevel (h : Refreshing w w') (surface : Surface) :
    Refreshing w (w'.closeToplevel surface) := by
  refine ⟨h.inv.closeToplevel surface, ?_, ?_⟩ <;> unfold World.closeToplevel <;> split
  · exact h.windows
  · exact h.windows
  · exact h.keyboardFocus
  · exact h.keyboardFocus

/-- Only the toplevels with a window are retained. -/
theorem Inv.retain (h : Inv (fun _ _ => False) w) (horder : HashMap.Lists order w.toplevels) :
    Refreshing w (order.foldl retainToplevel w) ∧
      ∀ surface, HasWindow w surface ((order.foldl retainToplevel w).toplevels.lookup surface) := by
  have hloop : ∀ w' surface rest, Refreshing w w' → surface ∉ List.map id rest → True →
      Refreshing w (w'.retainToplevel surface) ∧
        HasWindow w surface ((w'.retainToplevel surface).toplevels.lookup surface) ∧
        ∀ surface', surface' ≠ surface →
          (w'.retainToplevel surface).toplevels.lookup surface' = w'.toplevels.lookup surface' := by
    intro w' surface rest hrefreshing _ _
    unfold retainToplevel
    split
    · rename_i hany
      obtain ⟨win, hwin, heq⟩ := any_eq_true.mp hany
      rw [hrefreshing.windows] at hwin
      exact ⟨hrefreshing, fun _ => ⟨win, hwin, of_decide_eq_true heq⟩, fun _ _ => rfl⟩
    · exact ⟨hrefreshing.closeToplevel surface,
        fun hne => absurd (lookup_closeToplevel w' surface) hne,
        fun surface' hne => lookup_closeToplevel_of_ne hne⟩
  obtain ⟨hrefreshing, hpost, hother⟩ := foldl_each (I := fun _ => Refreshing w)
    (P := fun _ _ => True) hloop
    ((List.map_id order).symm ▸ horder.1) ⟨h, rfl, rfl⟩ fun _ _ => trivial
  refine ⟨hrefreshing, fun surface hne => ?_⟩
  obtain ⟨data, hlookup⟩ := ne_none_iff_exists'.mp hne
  exact of_lookup_of_order horder hpost hother hlookup nofun

end

theorem lookup_refreshToplevel (w : World Surface Client Output) (win : Window Surface Output)
    (hasFocus : Bool) : ∃ data,
      (w.refreshToplevel win hasFocus).toplevels.lookup win.surface = some data ∧
        Matches win hasFocus data := by
  unfold refreshToplevel
  cases w.toplevels.lookup win.surface with
  | some | none => exact ⟨_, lookup_insert _, rfl, rfl, rfl, rfl⟩

theorem lookup_refreshToplevel_of_ne (hne : surface ≠ win.surface) :
    (w.refreshToplevel win hasFocus).toplevels.lookup surface = w.toplevels.lookup surface := by
  unfold refreshToplevel
  cases w.toplevels.lookup win.surface with
  | some | none => exact lookup_insert_of_ne _ hne

/-- A window is refreshed.  No other is tracked as activated when it is to be activated. -/
theorem Refreshing.refreshToplevel (h : Refreshing w w') (hwin : win ∈ w.windows)
    (hothers : hasFocus = true → ∀ surface' data', surface' ≠ win.surface →
      w'.toplevels.lookup surface' = some data' → .activated ∉ data'.states) :
    Refreshing w (w'.refreshToplevel win hasFocus) := by
  rw [← h.windows] at hwin
  have hothers' := fun hact => hothers ((activated_mem_toStateVec : State.activated ∈ win.toStateVec hasFocus ↔ _).mp hact)
  unfold World.refreshToplevel
  cases hlookup : w'.toplevels.lookup win.surface with
  | some data => exact ⟨h.inv.changeToplevel hwin hlookup hothers', h.windows, h.keyboardFocus⟩
  | none => exact ⟨h.inv.newToplevel hwin hlookup hothers', h.windows, h.keyboardFocus⟩

/-- An unfocused window is tracked as it is. -/
def Unfocused (w : World Surface Client Output) (win : Window Surface Output)
    (entry : Option (ToplevelData Output)) : Prop :=
  w.keyboardFocus ≠ some win.surface → ∃ data, entry = some data ∧ Matches win false data

/-- The windows but the focused one. -/
theorem Refreshing.refreshUnfocused (h : Refreshing w w') :
    Refreshing w (w.windows.foldl refreshUnfocused w') ∧
      (∀ win ∈ w.windows, Unfocused w win
        ((w.windows.foldl refreshUnfocused w').toplevels.lookup win.surface)) ∧
      ∀ surface, surface ∉ w.windows.map Window.surface →
        (w.windows.foldl refreshUnfocused w').toplevels.lookup surface =
          w'.toplevels.lookup surface := by
  have hloop : ∀ w' win rest, (Refreshing w w' ∧ ∀ win' ∈ win :: rest, win' ∈ w.windows) →
      win.surface ∉ List.map Window.surface rest → True →
      (Refreshing w (w'.refreshUnfocused win) ∧ ∀ win' ∈ rest, win' ∈ w.windows) ∧
        Unfocused w win ((w'.refreshUnfocused win).toplevels.lookup win.surface) ∧
        ∀ surface', surface' ≠ win.surface →
          (w'.refreshUnfocused win).toplevels.lookup surface' = w'.toplevels.lookup surface' := by
    intro w' win rest ⟨hrefreshing, hmem⟩ _ _
    have hrest : ∀ win' ∈ rest, win' ∈ w.windows := fun win' hwin' =>
      hmem win' (mem_cons_of_mem _ hwin')
    have hwin := hmem win (mem_cons.mpr (.inl rfl))
    unfold World.refreshUnfocused
    rw [hrefreshing.keyboardFocus]
    split
    · rename_i hfocus
      exact ⟨⟨hrefreshing, hrest⟩, fun hne => absurd hfocus hne, fun _ _ => rfl⟩
    · exact ⟨⟨hrefreshing.refreshToplevel hwin nofun, hrest⟩,
        fun _ => lookup_refreshToplevel w' win false,
        fun surface' hne => lookup_refreshToplevel_of_ne hne⟩
  obtain ⟨⟨hrefreshing, -⟩, hpost, hother⟩ := foldl_each
    (I := fun rest w' => Refreshing w w' ∧ ∀ win' ∈ rest, win' ∈ w.windows)
    (P := fun _ _ => True) hloop
    (h.windows ▸ h.inv.nodup) ⟨h, fun _ hwin => hwin⟩ fun _ _ => trivial
  exact ⟨hrefreshing, hpost, hother⟩

/-- **A refresh tracks the windows** of the layout, the focused one last. -/
theorem synced_refresh (h : Inv (fun _ _ => False) w) (horder : HashMap.Lists order w.toplevels) :
    Refreshing w (w.refresh order) ∧ Synced (w.refresh order) := by
  obtain ⟨hretain, hwindow⟩ := h.retain horder
  unfold refresh
  dsimp only
  generalize order.foldl retainToplevel w = w₁ at hretain hwindow
  rw [hretain.windows, hretain.keyboardFocus]
  obtain ⟨hrefreshing, hunfocused, hother⟩ := hretain.refreshUnfocused
  generalize w.windows.foldl refreshUnfocused w₁ = w₂ at hrefreshing hunfocused hother
  have honly : ∀ surface, w₂.toplevels.lookup surface ≠ none →
      ∃ win ∈ w.windows, win.surface = surface := by
    intro surface hne
    by_cases hmem : surface ∈ w.windows.map Window.surface
    · exact mem_map.mp hmem
    · rw [hother surface hmem] at hne
      exact hwindow surface hne
  cases hfocused : (w.windows.filter fun win =>
      decide (w.keyboardFocus = some win.surface)).getLast? with
  | none =>
    rw [List.getLast?_eq_none_iff, filter_eq_nil_iff] at hfocused
    refine ⟨hrefreshing, fun win hwin => ?_, fun surface hne => ?_⟩
    · rw [hrefreshing.windows] at hwin
      have hne := hfocused win hwin
      rw [hrefreshing.keyboardFocus, Bool.not_eq_true _ |>.mp hne]
      exact hunfocused win hwin fun heq => hne (decide_eq_true heq)
    · rw [hrefreshing.windows]
      exact honly surface hne
  | some win =>
    obtain ⟨hwin, hfocus⟩ := mem_filter.mp (mem_of_getLast? hfocused)
    have hfocus := of_decide_eq_true hfocus
    have hne : ∀ win' ∈ w.windows, win'.surface ≠ win.surface →
        w.keyboardFocus ≠ some win'.surface := by
      intro win' _ hne heq
      rw [hfocus, some.injEq] at heq
      exact hne heq.symm
    have hstep : Refreshing w (w₂.refreshToplevel win true) := by
      refine hrefreshing.refreshToplevel hwin fun _ surface' data' hsurface hlookup hact => ?_
      obtain ⟨win', hwin', rfl⟩ := honly surface' (by rw [hlookup]; nofun)
      obtain ⟨data, hdata, hmatches⟩ := hunfocused win' hwin' (hne win' hwin' hsurface)
      rw [hlookup, some.injEq] at hdata
      rw [hdata, hmatches.states] at hact
      exact absurd (activated_mem_toStateVec.mp hact) Bool.false_ne_true
    refine ⟨hstep, fun win' hwin' => ?_, fun surface hsome => ?_⟩
    · rw [hstep.windows] at hwin'
      rw [hstep.keyboardFocus]
      by_cases heq : win'.surface = win.surface
      · rw [inj_on_of_nodup_map h.nodup hwin' hwin heq, decide_eq_true hfocus]
        exact lookup_refreshToplevel w₂ win true
      · rw [lookup_refreshToplevel_of_ne heq, decide_eq_false (hne win' hwin' heq)]
        exact hunfocused win' hwin' (hne win' hwin' heq)
    · rw [hstep.windows]
      by_cases heq : surface = win.surface
      · exact ⟨win, hwin, heq.symm⟩
      · rw [lookup_refreshToplevel_of_ne heq] at hsome
        exact honly surface hsome

/-! ## Runs -/

theorem step_inv {e : Step Surface Client Output} (h : Inv (fun _ _ => False) w)
    (hstep : w.step e = some w') : Inv (fun _ _ => False) w' := by
  cases e with
  | layout windows keyboardFocus =>
    obtain ⟨⟨hnodup, htexts⟩, heq⟩ := ite_none_right_eq_some.mp hstep
    cases heq
    exact h.layout hnodup htexts keyboardFocus
  | bindExtList manager client order =>
    obtain ⟨⟨hmanager, horder⟩, heq⟩ := ite_none_right_eq_some.mp hstep
    cases heq
    exact h.bindExtList hmanager horder
  | bindWlrManagement manager client order =>
    obtain ⟨⟨hmanager, horder⟩, heq⟩ := ite_none_right_eq_some.mp hstep
    cases heq
    exact h.bindWlrManagement hmanager horder
  | stop manager =>
    cases hstep
    exact h.stop manager
  | bindOutput client output order =>
    obtain ⟨horder, heq⟩ := ite_none_right_eq_some.mp hstep
    cases heq
    exact h.bindOutput horder client output
  | destroyOutput wlOutput =>
    cases hstep
    exact h.destroyOutput wlOutput
  | refresh order =>
    obtain ⟨horder, heq⟩ := ite_none_right_eq_some.mp hstep
    cases heq
    exact (synced_refresh h horder).1.inv

/-- What a manager's client reconstructed is the windows of the layout, each under a handle of its
own and as it is to be shown. -/
structure Mirrors (w : World Surface Client Output) (manager : ℕ)
    (Shows : Window Surface Output → Shown → Prop) (handle : Surface → ℕ) : Prop where
  shows : ∀ win ∈ w.windows, ∃ shown,
    ofLog (w.log manager) (handle win.surface) = some ⟨shown, shown⟩ ∧ Shows win shown
  known : ∀ h, ofLog (w.log manager) h ≠ none → ∃ win ∈ w.windows, handle win.surface = h
  injective : ∀ win ∈ w.windows, ∀ win' ∈ w.windows,
    handle win.surface = handle win'.surface → win = win'

/-- A window in ext-foreign-toplevel-list. -/
def ShowsExt (win : Window Surface Output) (shown : Shown) : Prop :=
  shown.title = win.title ∧ shown.appId = win.appId

/-- A window in wlr-foreign-toplevel-management, with the outputs that its client has bound. -/
def ShowsWlr (w : World Surface Client Output) (manager : ℕ) (win : Window Surface Output)
    (shown : Shown) : Prop :=
  shown.title = win.title ∧ shown.appId = win.appId ∧
    shown.states = win.toStateVec (decide (w.keyboardFocus = some win.surface)) ∧
    ∀ x ∈ w.wlOutputs, x.id ∈ shown.outputs ↔
      w.clients.lookup manager = some x.client ∧ win.output = some x.output

/-- Each client knows the windows of the layout. -/
def Mirrored (w : World Surface Client Output) : Prop :=
  (∀ manager ∈ w.extListInstances, ∃ handle, Mirrors w manager ShowsExt handle) ∧
    ∀ manager ∈ w.wlrManagementInstances, ∃ handle, Mirrors w manager (ShowsWlr w manager) handle

/-- The handle under which a surface is known. -/
def knownHandle (w : World Surface Client Output) (manager : ℕ) (surface : Surface) : ℕ :=
  ((w.toplevels.lookup surface).bind fun data => data.handle manager).getD 0

section

omit [DecidableEq Client] [DecidableEq Output]

theorem Inv.mirrors (h : Inv owes w) (hsynced : Synced w)
    (htold : ∀ surface data, w.toplevels.lookup surface = some data → data.handle manager ≠ none)
    {Shows : Window Surface Output → Shown → Prop}
    (hshows : ∀ win ∈ w.windows, ∀ data, w.toplevels.lookup win.surface = some data →
      Matches win (decide (w.keyboardFocus = some win.surface)) data → ∀ shown,
      Tells w.wlOutputs w.nextWlOutput manager data shown → Shows win shown) :
    Mirrors w manager Shows (w.knownHandle manager) := by
  have hbook : ∀ surface data, w.toplevels.lookup surface = some data →
      w.book manager surface = some (w.knownHandle manager surface,
        Tells w.wlOutputs w.nextWlOutput manager data) := by
    intro surface data hlookup
    obtain ⟨handle, hhandle⟩ := ne_none_iff_exists'.mp (htold surface data hlookup)
    rw [book_of_lookup hlookup, hhandle, map_some]
    unfold knownHandle
    rw [hlookup, bind_some, hhandle, getD_some]
  refine ⟨fun win hwin => ?_, fun handle hknown => ?_, fun win hwin win' hwin' heq => ?_⟩
  · obtain ⟨data, hlookup, hmatches⟩ := hsynced.windows win hwin
    obtain ⟨shown, hview, htells⟩ :=
      (h.keeps manager).told win.surface _ _ (hbook win.surface data hlookup)
    exact ⟨shown, hview, hshows win hwin data hlookup hmatches shown htells⟩
  · obtain ⟨surface, P, hsome⟩ := (h.keeps manager).known handle hknown
    have htracked : w.toplevels.lookup surface ≠ none := by
      intro hnone
      unfold book at hsome
      rw [hnone] at hsome
      cases hsome
    obtain ⟨data, hlookup⟩ := ne_none_iff_exists'.mp htracked
    rw [hbook surface data hlookup, some.injEq, Prod.mk.injEq] at hsome
    obtain ⟨win, hwin, rfl⟩ := hsynced.only surface htracked
    exact ⟨win, hwin, hsome.1⟩
  · obtain ⟨data, hlookup, -⟩ := hsynced.windows win hwin
    obtain ⟨data', hlookup', -⟩ := hsynced.windows win' hwin'
    have hbook' := hbook win'.surface data' hlookup'
    rw [← heq] at hbook'
    exact inj_on_of_nodup_map h.nodup hwin hwin' ((h.keeps manager).injective win.surface
      win'.surface _ _ _ (hbook win.surface data hlookup) hbook')

theorem Inv.mirrored (h : Inv (fun _ _ => False) w) (hsynced : Synced w) : Mirrored w := by
  refine ⟨fun manager hmanager => ⟨_, h.mirrors hsynced (fun surface data hlookup hnone => ?_)
      fun win _ data _ hmatches shown htells => ?_⟩,
    fun manager hmanager => ⟨_, h.mirrors hsynced (fun surface data hlookup hnone => ?_)
      fun win _ data hlookup hmatches shown htells => ?_⟩⟩
  · exact h.extTold surface data manager hlookup hmanager
      (ToplevelData.handle_eq_none_iff.mp hnone).1
  · exact ⟨htells.title.trans hmatches.title, htells.appId.trans hmatches.appId⟩
  · exact h.wlrTold surface data manager hlookup hmanager
      (ToplevelData.handle_eq_none_iff.mp hnone).2
  · obtain ⟨⟨handle, outputs⟩, hinstance⟩ := ne_none_iff_exists'.mp
      (h.wlrTold win.surface data manager hlookup hmanager)
    obtain ⟨hstates, houtputs⟩ := htells.wlr handle outputs hinstance
    refine ⟨htells.title.trans hmatches.title, htells.appId.trans hmatches.appId,
      hstates.trans hmatches.states, fun x hx => ?_⟩
    rw [houtputs x hx, (h.outputs win.surface data manager handle outputs hlookup hinstance).1 x hx,
      hmatches.output]
    exact and_congr_right fun _ => and_iff_left not_false

end

/-- **Every client knows the windows of the layout** after each refresh, and at most one toplevel is
activated after each event. -/
theorem toplevels_mirrored {es : List (Step Surface Client Output)}
    (h : exec step (start : World Surface Client Output) es = some w) :
    (∀ manager, SingleAlong (w.log manager)) ∧
      ∀ es' order, es = es' ++ [.refresh order] → Mirrored w := by
  have hinv : ∀ {es : List (Step Surface Client Output)} {w}, exec step start es = some w →
      Inv (fun _ _ => False) w :=
    exec_invariant (fun _ _ _ h' hstep => step_inv h' hstep) start_inv
  refine ⟨fun manager => ((hinv h).keeps manager).single, ?_⟩
  rintro es' order rfl
  obtain ⟨w', hexec, hstep⟩ := exec_concat_eq_some.mp h
  obtain ⟨horder, heq⟩ := ite_none_right_eq_some.mp hstep
  cases heq
  obtain ⟨hrefreshing, hsynced⟩ := synced_refresh (hinv hexec) horder
  exact hrefreshing.inv.mirrored hsynced

/-- Two windows on an output that is bound late: the focus goes from an old window to a new one
while the first title changes and a third window is closed. -/
def focusMoves : List (Step ℕ ℕ ℕ) :=
  [.layout [⟨1, 1, some "a", none, false, false, some 0⟩, ⟨2, 2, none, none, true, false, none⟩]
      (some 1),
    .bindWlrManagement 0 0 [], .refresh [], .bindExtList 1 0 [1, 2], .bindOutput 0 0 [2, 1],
    .layout [⟨3, 3, none, some "c", false, true, some 0⟩,
      ⟨1, 1, some "b", none, false, false, some 0⟩] (some 3),
    .refresh [1, 2]]

theorem toplevels_mirrored_focusMoves :
    ∃ w, exec step (start : World ℕ ℕ ℕ) focusMoves = some w ∧
      (∀ manager, SingleAlong (w.log manager)) ∧ Mirrored w := by
  obtain ⟨w, hw⟩ : ∃ w, exec step (start : World ℕ ℕ ℕ) focusMoves = some w :=
    isSome_iff_exists.mp (by decide +kernel)
  exact ⟨w, hw, (toplevels_mirrored hw).1, (toplevels_mirrored hw).2 focusMoves.dropLast [1, 2] rfl⟩

end World

end Tiri.Protocols.ForeignToplevel
