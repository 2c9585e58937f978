import Mathlib.Data.Finset.Image
import Mathlib.Data.List.Flatten
import Tiri.Lib.Run

/-!
# Which layer surfaces are mapped

`src/handlers/layer_shell.rs`: a layer surface is on the layer map of an output, and in
`unmapped_layer_surfaces` or, once it has committed a buffer, in `mapped_layer_surfaces`.  A
handler finds it by going through the layer maps of the connected outputs.

Of a `MappedLayer` only its presence is kept.  An output that is plugged in is a new one, with an
empty layer map (`Output::new` in each backend).

Results:
* `inv_step`: what every step keeps;
* `layerSurfaces_kept`: the two sets are right all along a run exactly when no mapped layer surface is
  destroyed after its output is gone;
* `unplugged_leaves`: then its entry stays.
-/

namespace Tiri.Handlers.LayerShell

open Option List Nat
open Finset hiding map map_cons mem_cons mem_singleton

/-! ## The handlers -/

abbrev WlSurface := ℕ

/-- An output, by its handle. -/
abbrev Output := ℕ

/-- `LayerSurface`: two are equal when they are the same object. -/
structure LayerSurface where
  id : ℕ
  wlSurface : WlSurface
  deriving DecidableEq

/-- What `Niri` keeps of layer surfaces. -/
structure Niri where
  /-- `layout.outputs()`, each with its layer map. -/
  outputs : List (Output × List LayerSurface)
  unmappedLayerSurfaces : Finset WlSurface
  mappedLayerSurfaces : Finset LayerSurface
  deriving DecidableEq

namespace Niri

variable (self : Niri)

/-- The layer surfaces on the connected outputs. -/
def layers : List LayerSurface := self.outputs.flatMap Prod.snd

def outputExists (output : Output) : Bool := output ∈ self.outputs.map Prod.fst

/-- Change the layer map of an output. -/
def modifyMap (output : Output) (f : List LayerSurface → List LayerSurface) : Niri :=
  { self with outputs := self.outputs.map fun o => if o.1 = output then (o.1, f o.2) else o }

def layerForSurface (map : List LayerSurface) (surface : WlSurface) : Option LayerSurface :=
  map.find? (·.wlSurface = surface)

/-- `new_layer_surface` (lines 21–47): on the output that the client has named, or on the active one.
    `none` where the assertion fails. -/
def newLayerSurface (surface : LayerSurface) (wlOutput : Option Output) (activeMonitorIdx : ℕ) :
    Option Niri :=
  let output := match wlOutput with
    | some output => if self.outputExists output then some output else none
    | none => self.outputs[activeMonitorIdx]?.map Prod.fst
  match output with
  -- No output for the new layer surface.
  | none => some self
  | some output =>
    if surface.wlSurface ∈ self.unmappedLayerSurfaces then none
    else some (({ self with
      unmappedLayerSurfaces := insert surface.wlSurface self.unmappedLayerSurfaces } :
        Niri).modifyMap output fun map => map ++ [surface])

/-- `layer_destroyed` (lines 49–74). -/
def layerDestroyed (surface : LayerSurface) : Niri :=
  let self := { self with
    unmappedLayerSurfaces := self.unmappedLayerSurfaces.erase surface.wlSurface }
  match self.outputs.find? (fun o => surface ∈ o.2) with
  | some (output, _) =>
    { self.modifyMap output (·.erase surface) with
      mappedLayerSurfaces := self.mappedLayerSurfaces.erase surface }
  | none => self

/-- `layer_shell_handle_commit` (lines 82–224), and whether it gets to one of its errors.  `isMapped`
    is whether the surface has a buffer now. -/
def layerShellHandleCommit (surface rootSurface : WlSurface) (isMapped : Bool) : Niri × Bool :=
  match self.outputs.find? (fun o => (layerForSurface o.2 rootSurface).isSome) with
  | none => (self, false)
  | some (_, map) =>
    -- An unsync layer-shell subsurface.
    if surface ≠ rootSurface then (self, false)
    else
      match layerForSurface map surface with
      -- It was just found.
      | none => (self, false)
      | some layer =>
        if isMapped then
          if surface ∈ self.unmappedLayerSurfaces then
            ({ self with
                unmappedLayerSurfaces := self.unmappedLayerSurfaces.erase surface
                mappedLayerSurfaces := insert layer self.mappedLayerSurfaces },
              -- MappedLayer was present for an unmapped surface.
              layer ∈ self.mappedLayerSurfaces)
          -- MappedLayer missing for a mapped surface.
          else (self, layer ∉ self.mappedLayerSurfaces)
        else if layer ∈ self.mappedLayerSurfaces then
          -- A mapped surface got unmapped via a null commit.
          ({ self with
              unmappedLayerSurfaces := insert surface self.unmappedLayerSurfaces
              mappedLayerSurfaces := self.mappedLayerSurfaces.erase layer }, false)
        else (self, false)

def addOutput (output : Output) : Niri :=
  { self with outputs := self.outputs ++ [(output, [])] }

/-- `remove_output` (`niri.rs`, lines 2976–2986): it sends `closed` to the layer surfaces, and
    takes the output out of the layout. -/
def removeOutput (output : Output) : Niri :=
  { self with outputs := self.outputs.filter (·.1 ≠ output) }

end Niri

/-! ## Runs -/

/-- The compositor, and what the clients have done. -/
structure World where
  niri : Niri
  /-- The layer surfaces that have not been destroyed. -/
  live : Finset LayerSurface
  /-- Those whose last commit left them with a buffer. -/
  buffered : Finset LayerSurface
  nextId : ℕ
  nextOutput : Output
  /-- Whether the assertion or an error has been reached. -/
  failed : Bool
  deriving DecidableEq

inductive Event
  /-- A client makes a layer surface of a surface that is none. -/
  | newLayerSurface (wlSurface : WlSurface) (wlOutput : Option Output) (activeMonitorIdx : ℕ)
  /-- A client commits a surface, which leaves it with a buffer or without. -/
  | commit (surface rootSurface : WlSurface) (isMapped : Bool)
  | layerDestroyed (surface : LayerSurface)
  | addOutput
  | removeOutput (output : Output)

/-! ## What the handlers do -/

namespace Niri

variable {self self' : Niri} {surface : LayerSurface} {output : Output} {layer : LayerSurface}

theorem mem_layers :
    layer ∈ self.layers ↔ ∃ o ∈ self.outputs, layer ∈ o.2 := mem_flatMap

variable {map : List LayerSurface} {before after : List (Output × List LayerSurface)}

/-- The layer map of one output changes. -/
theorem modifyMap_split (self : Niri) (hnodup : (self.outputs.map Prod.fst).Nodup)
    (hsplit : self.outputs = before ++ (output, map) :: after)
    (f : List LayerSurface → List LayerSurface) :
    (self.modifyMap output f).outputs = before ++ (output, f map) :: after := by
  rw [hsplit, map_append, map_cons, nodup_middle, nodup_cons, mem_append, not_or] at hnodup
  have hothers (l : List (Output × List LayerSurface)) (hl : output ∉ l.map Prod.fst) :
      l.map (fun o => if o.1 = output then (o.1, f o.2) else o) = l := by
    refine (map_congr_left fun o ho => if_neg fun heq => hl ?_).trans (map_id l)
    exact heq ▸ mem_map_of_mem ho
  unfold modifyMap
  rw [hsplit, map_append, map_cons, hothers before hnodup.1.1, hothers after hnodup.1.2, if_pos rfl]

theorem modifyMap_keys (self : Niri) (output : Output)
    (f : List LayerSurface → List LayerSurface) :
    (self.modifyMap output f).outputs.map Prod.fst = self.outputs.map Prod.fst := by
  unfold modifyMap
  rw [List.map_map]
  refine map_congr_left fun o _ => ?_
  rw [Function.comp_apply]
  split_ifs <;> rfl

/-- The layers of one output among all of them. -/
theorem layers_perm (hsplit : self.outputs = before ++ (output, map) :: after) :
    self.layers.Perm (map ++ (before ++ after).flatMap Prod.snd) := by
  rw [layers, hsplit, flatMap_append, flatMap_cons, flatMap_append, ← append_assoc, ← append_assoc]
  exact perm_append_comm.append_right _

theorem layerForSurface_eq_some {wlSurface : WlSurface}
    (h : layerForSurface map wlSurface = some layer) : layer ∈ map ∧ layer.wlSurface = wlSurface :=
  ⟨mem_of_find?_eq_some h, by simpa using List.find?_some h⟩

/-- A new layer surface is put on a connected output, where there is one. -/
theorem newLayerSurface_spec (wlOutput : Option Output) (activeMonitorIdx : ℕ)
    (hnodup : (self.outputs.map Prod.fst).Nodup)
    (hnew : surface.wlSurface ∉ self.unmappedLayerSurfaces) :
    self.newLayerSurface surface wlOutput activeMonitorIdx = some self ∨
      ∃ niri, self.newLayerSurface surface wlOutput activeMonitorIdx = some niri ∧
        niri.outputs.map Prod.fst = self.outputs.map Prod.fst ∧
        niri.layers.Perm (surface :: self.layers) ∧
        niri.unmappedLayerSurfaces = insert surface.wlSurface self.unmappedLayerSurfaces ∧
        niri.mappedLayerSurfaces = self.mappedLayerSurfaces := by
  have hput (output : Output) (hin : output ∈ self.outputs.map Prod.fst) :
      ∃ niri, (if surface.wlSurface ∈ self.unmappedLayerSurfaces then none
          else some (({ self with
            unmappedLayerSurfaces := insert surface.wlSurface self.unmappedLayerSurfaces } :
              Niri).modifyMap output fun map => map ++ [surface])) = some niri ∧
        niri.outputs.map Prod.fst = self.outputs.map Prod.fst ∧
        niri.layers.Perm (surface :: self.layers) ∧
        niri.unmappedLayerSurfaces = insert surface.wlSurface self.unmappedLayerSurfaces ∧
        niri.mappedLayerSurfaces = self.mappedLayerSurfaces := by
    obtain ⟨⟨_, map⟩, ho, rfl⟩ := mem_map.mp hin
    obtain ⟨before, after, hsplit⟩ := append_of_mem ho
    have hsplit' := modifyMap_split { self with
      unmappedLayerSurfaces := insert surface.wlSurface self.unmappedLayerSurfaces } hnodup hsplit
      fun map => map ++ [surface]
    rw [if_neg hnew]
    refine ⟨_, rfl, modifyMap_keys _ _ _, ?_, rfl, rfl⟩
    refine (layers_perm hsplit').trans ?_
    refine List.Perm.trans ?_ ((layers_perm hsplit).symm.cons surface)
    rw [append_assoc, singleton_append]
    exact perm_middle
  unfold newLayerSurface
  cases wlOutput with
  | some output =>
    dsimp only
    by_cases hexists : self.outputExists output = true
    · rw [if_pos hexists]
      exact .inr (hput output (of_decide_eq_true hexists))
    · rw [if_neg hexists]
      exact .inl rfl
  | none =>
    cases hactive : self.outputs[activeMonitorIdx]? with
    | none => exact .inl rfl
    | some o => exact .inr (hput o.1 (mem_map_of_mem (mem_of_getElem? hactive)))

/-- A commit does nothing, or changes where the layer surface of a connected output is kept. -/
theorem layerShellHandleCommit_cases (wlSurface rootSurface : WlSurface) (isMapped : Bool) :
    self.layerShellHandleCommit wlSurface rootSurface isMapped = (self, false) ∧
        (wlSurface = rootSurface → ∀ layer ∈ self.layers, layer.wlSurface ≠ wlSurface) ∨
      ∃ layer ∈ self.layers, layer.wlSurface = wlSurface ∧
        self.layerShellHandleCommit wlSurface rootSurface isMapped = if isMapped then
            if wlSurface ∈ self.unmappedLayerSurfaces then
              ({ self with
                  unmappedLayerSurfaces := self.unmappedLayerSurfaces.erase wlSurface
                  mappedLayerSurfaces := insert layer self.mappedLayerSurfaces },
                decide (layer ∈ self.mappedLayerSurfaces))
            else (self, decide (layer ∉ self.mappedLayerSurfaces))
          else if layer ∈ self.mappedLayerSurfaces then
            ({ self with
                unmappedLayerSurfaces := insert wlSurface self.unmappedLayerSurfaces
                mappedLayerSurfaces := self.mappedLayerSurfaces.erase layer }, false)
          else (self, false) := by
  unfold layerShellHandleCommit
  cases hfind : self.outputs.find? (fun o => (layerForSurface o.2 rootSurface).isSome) with
  | none =>
    refine .inl ⟨rfl, fun heq layer hlayer hsurface => ?_⟩
    obtain ⟨o, ho, hin⟩ := mem_layers.mp hlayer
    have hnone := List.find?_eq_none.mp hfind o ho
    rw [layerForSurface, List.find?_isSome] at hnone
    exact hnone ⟨layer, hin, by simpa [heq] using hsurface⟩
  | some o =>
    obtain ⟨output, map⟩ := o
    dsimp only
    by_cases hroot : wlSurface = rootSurface
    · rw [if_neg (not_not.mpr hroot)]
      have hsome := List.find?_some hfind
      rw [← hroot] at hsome
      obtain ⟨layer, hlayer⟩ := isSome_iff_exists.mp hsome
      obtain ⟨hin, hsurface⟩ := layerForSurface_eq_some hlayer
      rw [hlayer]
      exact .inr ⟨layer, mem_layers.mpr ⟨_, mem_of_find?_eq_some hfind, hin⟩, hsurface, rfl⟩
    · rw [if_pos hroot]
      exact .inl ⟨rfl, fun heq => absurd heq hroot⟩

/-- A layer surface that is destroyed goes from the map of its output and from the set of the
    mapped ones, if that output is connected. -/
theorem layerDestroyed_spec (hnodup : (self.outputs.map Prod.fst).Nodup) (surface : LayerSurface) :
    (self.layerDestroyed surface).outputs.map Prod.fst = self.outputs.map Prod.fst ∧
      (self.layerDestroyed surface).layers.Perm (self.layers.erase surface) ∧
      (self.layerDestroyed surface).unmappedLayerSurfaces =
        self.unmappedLayerSurfaces.erase surface.wlSurface ∧
      (self.layerDestroyed surface).mappedLayerSurfaces =
        if surface ∈ self.layers then self.mappedLayerSurfaces.erase surface
        else self.mappedLayerSurfaces := by
  unfold layerDestroyed
  dsimp only
  cases hfind : self.outputs.find? (fun o => surface ∈ o.2) with
  | none =>
    have hout : surface ∉ self.layers := fun hin => by
      obtain ⟨o, ho, hin⟩ := mem_layers.mp hin
      exact List.find?_eq_none.mp hfind o ho (decide_eq_true hin)
    refine ⟨rfl, ?_, rfl, (if_neg hout).symm⟩
    rw [erase_of_not_mem hout]
    exact List.Perm.refl _
  | some o =>
    obtain ⟨output, map⟩ := o
    obtain ⟨before, after, hsplit⟩ := append_of_mem (mem_of_find?_eq_some hfind)
    have hin : surface ∈ map := by simpa using List.find?_some hfind
    have hlayers : surface ∈ self.layers :=
      mem_layers.mpr ⟨_, mem_of_find?_eq_some hfind, hin⟩
    dsimp only
    refine ⟨modifyMap_keys _ _ _, ?_, rfl, (if_pos hlayers).symm⟩
    have hsplit' := modifyMap_split { self with
      unmappedLayerSurfaces := self.unmappedLayerSurfaces.erase surface.wlSurface } hnodup hsplit
      (·.erase surface)
    refine (layers_perm hsplit').trans ?_
    rw [← erase_append_left _ hin]
    exact ((layers_perm hsplit).erase surface).symm

end Niri

namespace World

/-- No outputs and no surfaces. -/
def start : World where
  niri := ⟨[], ∅, ∅⟩
  live := ∅
  buffered := ∅
  nextId := 0
  nextOutput := 0
  failed := false

/-- The layer surfaces of a surface that commits are left with a buffer or without. -/
def commitBuffer (self : World) (surface : WlSurface) (isMapped : Bool) : Finset LayerSurface :=
  if isMapped then self.buffered ∪ self.live.filter (·.wlSurface = surface)
  else self.buffered.filter (·.wlSurface ≠ surface)

/-- What an event does, `none` where it cannot happen. -/
def step (w : World) : Event → Option World
  | .newLayerSurface wlSurface wlOutput activeMonitorIdx =>
    if ∃ layer ∈ w.live, layer.wlSurface = wlSurface then none
    else
      let surface : LayerSurface := ⟨w.nextId, wlSurface⟩
      match w.niri.newLayerSurface surface wlOutput activeMonitorIdx with
      | some niri => some { w with niri, live := insert surface w.live, nextId := w.nextId + 1 }
      | none => some { w with failed := true }
  | .commit surface rootSurface isMapped =>
    -- A surface has one role: a layer surface has no parent.
    if surface ≠ rootSurface ∧ ∃ layer ∈ w.live, layer.wlSurface = surface then none
    else
      let (niri, error) := w.niri.layerShellHandleCommit surface rootSurface isMapped
      some { w with
        niri
        buffered := w.commitBuffer surface isMapped
        failed := w.failed || error }
  | .layerDestroyed surface =>
    if surface ∈ w.live then
      some { w with
        niri := w.niri.layerDestroyed surface
        live := w.live.erase surface
        buffered := w.buffered.erase surface }
    else none
  | .addOutput =>
    some { w with niri := w.niri.addOutput w.nextOutput, nextOutput := w.nextOutput + 1 }
  | .removeOutput output =>
    if w.niri.outputExists output then some { w with niri := w.niri.removeOutput output } else none

/-- **The two sets are right.** -/
structure Bookkeeping (w : World) : Prop where
  disjoint : ∀ layer ∈ w.niri.mappedLayerSurfaces, layer.wlSurface ∉ w.niri.unmappedLayerSurfaces
  unmappedLive : ∀ surface ∈ w.niri.unmappedLayerSurfaces,
    ∃ layer ∈ w.live, layer.wlSurface = surface
  mappedLive : ∀ layer ∈ w.niri.mappedLayerSurfaces, layer ∈ w.live
  /-- On a connected output, a live layer surface is in exactly one of the two. -/
  oneOf : ∀ layer ∈ w.niri.layers, layer ∈ w.live →
    (layer.wlSurface ∈ w.niri.unmappedLayerSurfaces ↔ layer ∉ w.niri.mappedLayerSurfaces)
  buffered : ∀ layer ∈ w.niri.layers, layer ∈ w.live →
    (layer ∈ w.niri.mappedLayerSurfaces ↔ layer ∈ w.buffered)
  noFailure : w.failed = false

/-- No layer surface that is mapped is destroyed after its output is gone. -/
def Careful (w : World) : Event → Prop
  | .layerDestroyed surface =>
    surface ∈ w.niri.mappedLayerSurfaces → surface ∈ w.niri.layers
  | _ => True

/-! ## What every step keeps -/

/-- What holds in every state, whatever has been destroyed. -/
structure Inv (w : World) : Prop where
  wlSurface_inj : ∀ a ∈ w.live, ∀ b ∈ w.live, a.wlSurface = b.wlSurface → a = b
  live_lt : ∀ a ∈ w.live, a.id < w.nextId
  mapped_lt : ∀ a ∈ w.niri.mappedLayerSurfaces, a.id < w.nextId
  buffered_lt : ∀ a ∈ w.buffered, a.id < w.nextId
  outputs : (w.niri.outputs.map Prod.fst).Nodup
  outputs_lt : ∀ o ∈ w.niri.outputs.map Prod.fst, o < w.nextOutput
  layers : w.niri.layers.Nodup
  layersLive : ∀ a ∈ w.niri.layers, a ∈ w.live
  unmappedLive : ∀ s ∈ w.niri.unmappedLayerSurfaces, ∃ a ∈ w.live, a.wlSurface = s
  apart : ∀ a ∈ w.live, a ∈ w.niri.mappedLayerSurfaces →
    a.wlSurface ∉ w.niri.unmappedLayerSurfaces
  mapped_iff : ∀ a ∈ w.niri.layers, (a ∈ w.niri.mappedLayerSurfaces ↔ a ∈ w.buffered)
  unmapped_iff : ∀ a ∈ w.niri.layers, (a.wlSurface ∈ w.niri.unmappedLayerSurfaces ↔ a ∉ w.buffered)
  noFailure : w.failed = false

theorem inv_start : Inv start where
  wlSurface_inj := by simp [start]
  live_lt := by simp [start]
  mapped_lt := by simp [start]
  buffered_lt := by simp [start]
  outputs := nodup_nil
  outputs_lt := by simp [start]
  layers := nodup_nil
  layersLive := by simp [start, Niri.layers]
  unmappedLive := by simp [start]
  apart := by simp [start]
  mapped_iff := by simp [start, Niri.layers]
  unmapped_iff := by simp [start, Niri.layers]
  noFailure := rfl

variable {w w' : World}

/-- The sets are right when the mapped layer surfaces have not been destroyed. -/
theorem Inv.bookkeeping (h : Inv w) (hlive : ∀ a ∈ w.niri.mappedLayerSurfaces, a ∈ w.live) :
    Bookkeeping w where
  disjoint a ha := h.apart a (hlive a ha) ha
  unmappedLive := h.unmappedLive
  mappedLive := hlive
  oneOf a ha _ := (h.unmapped_iff a ha).trans (not_congr (h.mapped_iff a ha)).symm
  buffered a ha _ := h.mapped_iff a ha
  noFailure := h.noFailure

/-! ### Making a layer surface -/

theorem Inv.newLayerSurface (h : Inv w) (wlSurface : WlSurface) (wlOutput : Option Output)
    (activeMonitorIdx : ℕ)
    (hstep : w.step (.newLayerSurface wlSurface wlOutput activeMonitorIdx) = some w') :
    Inv w' ∧ w'.niri.mappedLayerSurfaces = w.niri.mappedLayerSurfaces ∧ w.live ⊆ w'.live := by
  unfold step at hstep
  dsimp only at hstep
  split_ifs at hstep with hany
  have hnew : wlSurface ∉ w.niri.unmappedLayerSurfaces := fun hin => hany (h.unmappedLive _ hin)
  have hlive : ∀ a ∈ w.live, a.wlSurface ≠ wlSurface := fun a ha heq => hany ⟨a, ha, heq⟩
  have hunmapped_iff : ∀ a ∈ w.niri.layers,
      (a.wlSurface ∈ insert wlSurface w.niri.unmappedLayerSurfaces ↔ a ∉ w.buffered) := by
    intro a ha
    rw [mem_insert, or_iff_right (hlive a (h.layersLive a ha))]
    exact h.unmapped_iff a ha
  generalize hsurface : (⟨w.nextId, wlSurface⟩ : LayerSurface) = surface at hstep
  have hid : surface.id = w.nextId := by rw [← hsurface]
  have hwl : surface.wlSurface = wlSurface := by rw [← hsurface]
  have hfresh {a : LayerSurface} (ha : a.id < w.nextId) : a ≠ surface := by
    rintro rfl
    exact ha.ne hid
  have hinj : ∀ a ∈ insert surface w.live, ∀ b ∈ insert surface w.live,
      a.wlSurface = b.wlSurface → a = b := by
    intro a ha b hb heq
    rcases mem_insert.mp ha with has | hain
    · rcases mem_insert.mp hb with hbs | hbin
      · rw [has, hbs]
      · exact absurd (heq.symm.trans (has ▸ hwl)) (hlive b hbin)
    · rcases mem_insert.mp hb with hbs | hbin
      · exact absurd (heq.trans (hbs ▸ hwl)) (hlive a hain)
      · exact h.wlSurface_inj a hain b hbin heq
  have hlive_lt : ∀ a ∈ insert surface w.live, a.id < w.nextId + 1 := by
    intro a ha
    rcases mem_insert.mp ha with rfl | ha
    · rw [hid]
      exact lt_succ_self _
    · exact lt_succ_of_lt (h.live_lt a ha)
  -- It is not mapped, and nothing is known of a buffer.
  have hnotMapped : surface ∉ w.niri.mappedLayerSurfaces := fun ha => hfresh (h.mapped_lt _ ha) rfl
  have hnotBuffered : surface ∉ w.buffered := fun ha => hfresh (h.buffered_lt _ ha) rfl
  rw [← hwl] at hnew
  rcases Niri.newLayerSurface_spec wlOutput activeMonitorIdx h.outputs hnew with
    hrun | ⟨niri, hrun, hkeys, hlayers, hunmapped, hmapped⟩
  all_goals
    rw [hrun] at hstep
    obtain rfl := some.inj hstep
    refine ⟨?_, ?_, subset_insert _ _⟩
  · exact {
      h with
      wlSurface_inj := hinj
      live_lt := hlive_lt
      mapped_lt := fun a ha => lt_succ_of_lt (h.mapped_lt a ha)
      buffered_lt := fun a ha => lt_succ_of_lt (h.buffered_lt a ha)
      layersLive := fun a ha => mem_insert_of_mem (h.layersLive a ha)
      unmappedLive := fun s hs => (h.unmappedLive s hs).imp fun a ha =>
        ⟨mem_insert_of_mem ha.1, ha.2⟩
      apart := by
        intro a ha hmapped
        rcases mem_insert.mp ha with rfl | ha
        · exact absurd hmapped hnotMapped
        · exact h.apart a ha hmapped }
  · rfl
  · have hmem {a : LayerSurface} : a ∈ niri.layers ↔ a = surface ∨ a ∈ w.niri.layers := by
      rw [hlayers.mem_iff, mem_cons]
    exact {
      wlSurface_inj := hinj
      live_lt := hlive_lt
      mapped_lt := by
        rw [hmapped]
        exact fun a ha => lt_succ_of_lt (h.mapped_lt a ha)
      buffered_lt := fun a ha => lt_succ_of_lt (h.buffered_lt a ha)
      outputs := by
        rw [hkeys]
        exact h.outputs
      outputs_lt := by
        rw [hkeys]
        exact h.outputs_lt
      layers := by
        rw [hlayers.nodup_iff, nodup_cons]
        exact ⟨fun hin => hfresh (h.live_lt _ (h.layersLive _ hin)) rfl, h.layers⟩
      layersLive := by
        intro a ha
        rcases hmem.mp ha with rfl | ha
        · exact mem_insert_self _ _
        · exact mem_insert_of_mem (h.layersLive a ha)
      unmappedLive := by
        rw [hunmapped]
        intro s hs
        rcases mem_insert.mp hs with rfl | hs
        · exact ⟨surface, mem_insert_self _ _, rfl⟩
        · obtain ⟨a, ha, has⟩ := h.unmappedLive s hs
          exact ⟨a, mem_insert_of_mem ha, has⟩
      apart := by
        rw [hmapped, hunmapped, hwl]
        intro a ha hin
        rcases mem_insert.mp ha with rfl | ha
        · exact absurd hin hnotMapped
        · rw [mem_insert, not_or]
          exact ⟨hlive a ha, h.apart a ha hin⟩
      mapped_iff := by
        rw [hmapped]
        intro a ha
        rcases hmem.mp ha with rfl | ha
        · exact ⟨fun hin => absurd hin hnotMapped, fun hin => absurd hin hnotBuffered⟩
        · exact h.mapped_iff a ha
      unmapped_iff := by
        rw [hunmapped, hwl]
        intro a ha
        rcases hmem.mp ha with rfl | ha
        · rw [hwl]
          exact ⟨fun _ => hnotBuffered, fun _ => mem_insert_self _ _⟩
        · exact hunmapped_iff a ha
      noFailure := h.noFailure }
  · exact hmapped

/-! ### A commit -/

variable {surface : WlSurface} {isMapped : Bool}

/-- The layer surface of a surface that commits is known by it. -/
theorem mem_commitBuffer {a : LayerSurface} (ha : a ∈ w.live) :
    a ∈ w.commitBuffer surface isMapped ↔
      if a.wlSurface = surface then isMapped = true else a ∈ w.buffered := by
  unfold commitBuffer
  by_cases heq : a.wlSurface = surface
  · cases isMapped <;> simp [heq, ha]
  · cases isMapped <;> simp [heq]

section

variable (h : Inv w)
include h

/-- A layer surface on a connected output commits: the sets follow, for it and for no other. -/
theorem Inv.committed {layer : LayerSurface} (hlayer : layer ∈ w.niri.layers)
    (hsurface : layer.wlSurface = surface) {unmapped : Finset WlSurface}
    {mapped : Finset LayerSurface} {failed : Bool}
    (hmapped : ∀ a, a ∈ mapped ↔
      if a = layer then isMapped = true else a ∈ w.niri.mappedLayerSurfaces)
    (hunmapped : ∀ s, s ∈ unmapped ↔
      if s = surface then ¬isMapped = true else s ∈ w.niri.unmappedLayerSurfaces)
    (hfailed : failed = false) :
    Inv { w with
      niri := {
        outputs := w.niri.outputs
        unmappedLayerSurfaces := unmapped
        mappedLayerSurfaces := mapped }
      buffered := w.commitBuffer surface isMapped
      failed := failed } := by
  have hlive := h.layersLive layer hlayer
  have hone : ∀ a ∈ w.live, (a.wlSurface = surface ↔ a = layer) := fun a ha =>
    ⟨fun heq => h.wlSurface_inj a ha layer hlive (heq.trans hsurface.symm), fun heq => heq ▸ hsurface⟩
  have hbuffered : ∀ a ∈ w.live, (a ∈ w.commitBuffer surface isMapped ↔
      if a = layer then isMapped = true else a ∈ w.buffered) := by
    intro a ha
    rw [mem_commitBuffer ha]
    simp only [hone a ha]
  exact {
    h with
    mapped_lt := by
      intro a ha
      rw [hmapped] at ha
      split_ifs at ha with heq
      · exact h.live_lt a (heq ▸ hlive)
      · exact h.mapped_lt a ha
    buffered_lt := by
      intro a ha
      unfold commitBuffer at ha
      split_ifs at ha
      · rcases mem_union.mp ha with ha | ha
        · exact h.buffered_lt a ha
        · exact h.live_lt a (mem_filter.mp ha).1
      · exact h.buffered_lt a (mem_filter.mp ha).1
    unmappedLive := by
      intro s hs
      rw [hunmapped] at hs
      split_ifs at hs with heq
      · exact ⟨layer, hlive, hsurface.trans heq.symm⟩
      · exact h.unmappedLive s hs
    apart := by
      intro a ha hin
      rw [hmapped] at hin
      rw [hunmapped]
      simp only [hone a ha]
      split_ifs at hin ⊢ with heq
      · exact not_not.mpr hin
      · exact h.apart a ha hin
    mapped_iff := by
      intro a ha
      rw [hmapped, hbuffered a (h.layersLive a ha)]
      split_ifs
      · exact Iff.rfl
      · exact h.mapped_iff a ha
    unmapped_iff := by
      intro a ha
      rw [hunmapped, hbuffered a (h.layersLive a ha)]
      simp only [hone a (h.layersLive a ha)]
      split_ifs
      · exact Iff.rfl
      · exact h.unmapped_iff a ha
    noFailure := hfailed }

/-- The surface that commits is no layer surface of a connected output. -/
theorem Inv.committedElsewhere (hnone : ∀ layer ∈ w.niri.layers, layer.wlSurface ≠ surface) :
    Inv { w with buffered := w.commitBuffer surface isMapped } := by
  have hbuffered : ∀ a ∈ w.niri.layers, (a ∈ w.commitBuffer surface isMapped ↔ a ∈ w.buffered) := by
    intro a ha
    rw [mem_commitBuffer (h.layersLive a ha), if_neg (hnone a ha)]
  exact {
    h with
    buffered_lt := by
      intro a ha
      unfold commitBuffer at ha
      split_ifs at ha
      · rcases mem_union.mp ha with ha | ha
        · exact h.buffered_lt a ha
        · exact h.live_lt a (mem_filter.mp ha).1
      · exact h.buffered_lt a (mem_filter.mp ha).1
    mapped_iff := fun a ha => (h.mapped_iff a ha).trans (hbuffered a ha).symm
    unmapped_iff := fun a ha => (h.unmapped_iff a ha).trans (not_congr (hbuffered a ha)).symm }

theorem Inv.commit (surface rootSurface : WlSurface) (isMapped : Bool)
    (hstep : w.step (.commit surface rootSurface isMapped) = some w') :
    Inv w' ∧ w'.live = w.live ∧
      ∀ a ∈ w'.niri.mappedLayerSurfaces, a ∈ w.niri.mappedLayerSurfaces ∨ a ∈ w.live := by
  unfold step at hstep
  dsimp only at hstep
  split_ifs at hstep with hrole
  obtain rfl := some.inj hstep
  rcases w.niri.layerShellHandleCommit_cases surface rootSurface isMapped with
    ⟨hrun, hnone⟩ | ⟨layer, hlayer, hsurface, hrun⟩
  · rw [hrun]
    rw [Bool.or_false]
    refine ⟨h.committedElsewhere fun layer hlayer hsurface => ?_, rfl, fun a ha => .inl ha⟩
    by_cases hroot : surface = rootSurface
    · exact hnone hroot layer hlayer hsurface
    · exact hrole ⟨hroot, layer, h.layersLive layer hlayer, hsurface⟩
  · have hmapped_iff := h.mapped_iff layer hlayer
    have hunmapped_iff := h.unmapped_iff layer hlayer
    rw [hsurface] at hunmapped_iff
    have hlive := h.layersLive layer hlayer
    rw [hrun, h.noFailure]
    simp only [Bool.false_or]
    cases isMapped with
    | true =>
      by_cases hin : surface ∈ w.niri.unmappedLayerSurfaces
      · -- It is mapped now.
        rw [if_pos hin]
        have hnot : layer ∉ w.niri.mappedLayerSurfaces := fun hmapped =>
          hunmapped_iff.mp hin (hmapped_iff.mp hmapped)
        refine ⟨h.committed hlayer hsurface (fun a => ?_) (fun s => ?_) (decide_eq_false hnot), trivial,
          fun a ha => ?_⟩
        · by_cases heq : a = layer <;> simp [heq]
        · by_cases heq : s = surface <;> simp [heq]
        · rcases mem_insert.mp ha with rfl | ha
          · exact .inr hlive
          · exact .inl ha
      · -- It remains mapped.
        rw [if_neg hin]
        have hmapped : layer ∈ w.niri.mappedLayerSurfaces :=
          hmapped_iff.mpr (not_not.mp (mt hunmapped_iff.mpr hin))
        refine ⟨h.committed hlayer hsurface (fun a => ?_) (fun s => ?_)
          (decide_eq_false (not_not.mpr hmapped)), trivial, fun a ha => .inl ha⟩
        · by_cases heq : a = layer <;> simp [heq, hmapped]
        · by_cases heq : s = surface <;> simp [heq, hin]
    | false =>
      by_cases hin : layer ∈ w.niri.mappedLayerSurfaces
      · -- It is unmapped via a null commit.
        rw [if_pos hin]
        refine ⟨h.committed hlayer hsurface (fun a => ?_) (fun s => ?_) rfl, trivial,
          fun a ha => .inl (mem_of_mem_erase ha)⟩
        · by_cases heq : a = layer <;> simp [heq]
        · by_cases heq : s = surface <;> simp [heq]
      · -- It remains unmapped.
        rw [if_neg hin]
        have hunmapped : surface ∈ w.niri.unmappedLayerSurfaces :=
          hunmapped_iff.mpr (mt hmapped_iff.mpr hin)
        refine ⟨h.committed hlayer hsurface (fun a => ?_) (fun s => ?_) rfl, trivial,
          fun a ha => .inl ha⟩
        · by_cases heq : a = layer <;> simp [heq, hin]
        · by_cases heq : s = surface <;> simp [heq, hunmapped]

/-! ### Destroying a layer surface -/

theorem Inv.layerDestroyed {surface : LayerSurface}
    (hstep : w.step (.layerDestroyed surface) = some w') :
    Inv w' ∧ surface ∈ w.live ∧ w'.live = w.live.erase surface ∧
      w'.niri.mappedLayerSurfaces =
        if surface ∈ w.niri.layers then w.niri.mappedLayerSurfaces.erase surface
        else w.niri.mappedLayerSurfaces := by
  unfold step at hstep
  dsimp only at hstep
  split_ifs at hstep with hlive
  obtain rfl := some.inj hstep
  obtain ⟨hkeys, hlayers, hunmapped, hmapped⟩ := Niri.layerDestroyed_spec h.outputs surface
  have hmem {a : LayerSurface} :
      a ∈ (w.niri.layerDestroyed surface).layers ↔ a ≠ surface ∧ a ∈ w.niri.layers := by
    rw [hlayers.mem_iff, h.layers.mem_erase_iff]
  have hmem_mapped {a : LayerSurface} (ha : a ≠ surface) :
      a ∈ (w.niri.layerDestroyed surface).mappedLayerSurfaces ↔ a ∈ w.niri.mappedLayerSurfaces := by
    rw [hmapped]
    split_ifs
    · rw [mem_erase, and_iff_right ha]
    · exact Iff.rfl
  have hmem_unmapped {a : LayerSurface} (ha : a ∈ w.live) (hne : a ≠ surface) :
      a.wlSurface ∈ (w.niri.layerDestroyed surface).unmappedLayerSurfaces ↔
        a.wlSurface ∈ w.niri.unmappedLayerSurfaces := by
    rw [hunmapped, mem_erase, and_iff_right]
    exact fun heq => hne (h.wlSurface_inj a ha surface hlive heq)
  refine ⟨?_, hlive, rfl, hmapped⟩
  exact {
    wlSurface_inj := fun a ha b hb => h.wlSurface_inj a (mem_of_mem_erase ha) b
      (mem_of_mem_erase hb)
    live_lt := fun a ha => h.live_lt a (mem_of_mem_erase ha)
    mapped_lt := by
      intro a ha
      rw [hmapped] at ha
      split_ifs at ha
      · exact h.mapped_lt a (mem_of_mem_erase ha)
      · exact h.mapped_lt a ha
    buffered_lt := fun a ha => h.buffered_lt a (mem_of_mem_erase ha)
    outputs := by
      rw [hkeys]
      exact h.outputs
    outputs_lt := by
      rw [hkeys]
      exact h.outputs_lt
    layers := hlayers.nodup_iff.mpr (h.layers.erase surface)
    layersLive := fun a ha =>
      mem_erase.mpr ⟨(hmem.mp ha).1, h.layersLive a (hmem.mp ha).2⟩
    unmappedLive := by
      intro s hs
      rw [hunmapped] at hs
      obtain ⟨hne, hs⟩ := mem_erase.mp hs
      obtain ⟨a, ha, rfl⟩ := h.unmappedLive s hs
      exact ⟨a, mem_erase.mpr ⟨fun heq => hne (heq ▸ rfl), ha⟩, rfl⟩
    apart := by
      intro a ha hin
      obtain ⟨hne, ha⟩ := mem_erase.mp ha
      rw [hmem_unmapped ha hne]
      exact h.apart a ha ((hmem_mapped hne).mp hin)
    mapped_iff := by
      intro a ha
      obtain ⟨hne, ha⟩ := hmem.mp ha
      rw [hmem_mapped hne, mem_erase, and_iff_right hne]
      exact h.mapped_iff a ha
    unmapped_iff := by
      intro a ha
      obtain ⟨hne, ha⟩ := hmem.mp ha
      rw [hmem_unmapped (h.layersLive a ha) hne, mem_erase, and_iff_right hne]
      exact h.unmapped_iff a ha
    noFailure := h.noFailure }

/-! ### Outputs -/

theorem Inv.addOutput :
    Inv { w with niri := w.niri.addOutput w.nextOutput, nextOutput := w.nextOutput + 1 } := by
  have hlayers : (w.niri.addOutput w.nextOutput).layers = w.niri.layers := by
    unfold Niri.layers Niri.addOutput
    rw [flatMap_append, flatMap_singleton, append_nil]
  have hkeys : (w.niri.addOutput w.nextOutput).outputs.map Prod.fst =
      w.niri.outputs.map Prod.fst ++ [w.nextOutput] := map_append
  exact {
    h with
    outputs := by
      rw [hkeys, nodup_append]
      refine ⟨h.outputs, nodup_singleton _, fun o ho o' ho' => ?_⟩
      rw [mem_singleton.mp ho']
      exact (h.outputs_lt o ho).ne
    outputs_lt := by
      rw [hkeys]
      intro o ho
      rcases mem_append.mp ho with ho | ho
      · exact lt_succ_of_lt (h.outputs_lt o ho)
      · rw [mem_singleton.mp ho]
        exact lt_succ_self _
    layers := by
      rw [hlayers]
      exact h.layers
    layersLive := by
      rw [hlayers]
      exact h.layersLive
    mapped_iff := by
      rw [hlayers]
      exact h.mapped_iff
    unmapped_iff := by
      rw [hlayers]
      exact h.unmapped_iff }

theorem Inv.removeOutput (output : Output) : Inv { w with niri := w.niri.removeOutput output } := by
  have hsub : (w.niri.removeOutput output).outputs.Sublist w.niri.outputs := filter_sublist
  have hlayers : (w.niri.removeOutput output).layers.Sublist w.niri.layers := hsub.flatMap _
  have hkeys := hsub.map Prod.fst
  exact {
    h with
    outputs := h.outputs.sublist hkeys
    outputs_lt := fun o ho => h.outputs_lt o (hkeys.subset ho)
    layers := h.layers.sublist hlayers
    layersLive := fun a ha => h.layersLive a (hlayers.subset ha)
    mapped_iff := fun a ha => h.mapped_iff a (hlayers.subset ha)
    unmapped_iff := fun a ha => h.unmapped_iff a (hlayers.subset ha) }

end

/-! ### A step -/

theorem inv_step (w : World) (e : Event) (w' : World) (h : Inv w) (hstep : w.step e = some w') :
    Inv w' := by
  cases e with
  | newLayerSurface wlSurface wlOutput activeMonitorIdx =>
    exact (h.newLayerSurface wlSurface wlOutput activeMonitorIdx hstep).1
  | commit surface rootSurface isMapped => exact (h.commit surface rootSurface isMapped hstep).1
  | layerDestroyed surface => exact (h.layerDestroyed hstep).1
  | addOutput =>
    obtain rfl := some.inj hstep
    exact h.addOutput
  | removeOutput output =>
    unfold step at hstep
    dsimp only at hstep
    split_ifs at hstep
    obtain rfl := some.inj hstep
    exact h.removeOutput output

/-- A step leaves the sets right exactly when it is careful. -/
theorem bookkeeping_step (w : World) (e : Event) (w' : World) (h : Inv w) (hw : Bookkeeping w)
    (hstep : w.step e = some w') : Bookkeeping w' ↔ w.Careful e := by
  have hinv := inv_step w e w' h hstep
  have hkept : (∀ a ∈ w'.niri.mappedLayerSurfaces, a ∈ w'.live) → Bookkeeping w' := hinv.bookkeeping
  cases e with
  | newLayerSurface wlSurface wlOutput activeMonitorIdx =>
    obtain ⟨-, hmapped, hlive⟩ := h.newLayerSurface wlSurface wlOutput activeMonitorIdx hstep
    exact iff_of_true (hkept fun a ha => hlive (hw.mappedLive a (hmapped ▸ ha))) trivial
  | commit surface rootSurface isMapped =>
    obtain ⟨-, hlive, hmapped⟩ := h.commit surface rootSurface isMapped hstep
    refine iff_of_true (hkept fun a ha => ?_) trivial
    rw [hlive]
    exact (hmapped a ha).elim (hw.mappedLive a) id
  | layerDestroyed surface =>
    obtain ⟨-, hin, hlive, hmapped⟩ := h.layerDestroyed hstep
    constructor
    · intro hw' hsurface
      by_contra hout
      rw [if_neg hout] at hmapped
      have hstays : surface ∈ w'.live := hw'.mappedLive surface (hmapped ▸ hsurface)
      rw [hlive] at hstays
      exact notMem_erase surface w.live hstays
    · intro hcareful
      refine hkept fun a ha => ?_
      rw [hlive]
      rw [hmapped] at ha
      split_ifs at ha with hlayer
      · exact mem_erase.mpr
          ⟨ne_of_mem_erase ha, hw.mappedLive a (mem_of_mem_erase ha)⟩
      · refine mem_erase.mpr ⟨?_, hw.mappedLive a ha⟩
        rintro rfl
        exact hlayer (hcareful ha)
  | addOutput =>
    obtain rfl := some.inj hstep
    exact iff_of_true (hkept hw.mappedLive) trivial
  | removeOutput output =>
    unfold step at hstep
    dsimp only at hstep
    split_ifs at hstep
    obtain rfl := some.inj hstep
    exact iff_of_true (hkept hw.mappedLive) trivial

/-! ## The bookkeeping -/

/-- **The two sets are right all along a run exactly when no mapped layer surface is destroyed after
    its output is gone.** -/
theorem layerSurfaces_kept (es : List Event) :
    Run.Always step Bookkeeping start es ↔ Run.Along step Careful start es :=
  Run.always_iff_along inv_step bookkeeping_step inv_start
    (inv_start.bookkeeping fun _ ha => absurd ha (notMem_empty _))

/-- A panel is on the screen, the screen is unplugged, and the panel goes away. -/
def unplugged : List Event :=
  [.addOutput, .newLayerSurface 0 none 0, .commit 0 0 false, .commit 0 0 true, .removeOutput 0,
    .layerDestroyed ⟨0, 0⟩]

/-- Its entry stays. -/
theorem unplugged_leaves : ¬Run.Always step Bookkeeping start unplugged := by
  intro h
  have hrun : Run.exec step start unplugged = some
      { start with
        niri := ⟨[], ∅, {⟨0, 0⟩}⟩
        nextId := 1
        nextOutput := 1 } := by decide +kernel
  have hlive := (h.finish hrun).mappedLive ⟨0, 0⟩ (Finset.mem_singleton_self _)
  exact notMem_empty _ hlive

end World

end Tiri.Handlers.LayerShell
