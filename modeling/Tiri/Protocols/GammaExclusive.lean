import Tiri.Lib.Run
import Tiri.Protocols.GammaControl

/-!
# One gamma control for each output

Clients take control of outputs, which are connected and removed.

Results:
* `sound_step`: a control that was sent `failed` is not active, and connected outputs have their own
  surfaces;
* `exclusive_step_iff`: each control stays with a connected output unless one is handed out for an
  output that is gone;
* `gamma_exclusive_iff`: for runs.
-/

namespace Tiri.Protocols.GammaControl

open Run Finmap Finset HashMap
open Option hiding or_assoc

variable {OutputId Slot ControlId : Type}
variable [DecidableEq OutputId] [DecidableEq Slot] [DecidableEq ControlId]

namespace World

variable {w w' : World OutputId Slot ControlId} {e : Event OutputId Slot ControlId}
variable {output : OutputId} {slot : Slot} {control : ControlId} {order : List OutputId}

/-- Connected outputs have surfaces of their own, and a control is active for one output until it is
sent `failed`. -/
structure Sound (w : World OutputId Slot ControlId) : Prop where
  connected : ∀ o ∈ w.outputState, ∃ slot, w.outputs.lookup o = some slot ∧ slot ∈ w.surfaces
  apart : ∀ o ∈ w.outputState, ∀ o' ∈ w.outputState, ∀ slot, w.outputs.lookup o = some slot →
    w.outputs.lookup o' = some slot → o = o'
  known : ∀ o c, w.gammaControls.lookup o = some c → c ∈ w.gammaSizes ∧ c ∉ w.failed
  single : ∀ o o' c, w.gammaControls.lookup o = some c → w.gammaControls.lookup o' = some c → o = o'
  failed : ∀ c ∈ w.failed, c ∈ w.gammaSizes
  idle : w.isActive = true → ∀ slot surface, w.surfaces.lookup slot = some surface →
    surface.pendingGammaChange = none

/-- Each active control belongs to a connected output, and each CRTC has at most one. -/
structure Exclusive (w : World OutputId Slot ControlId) : Prop where
  connected : ∀ o ∈ w.gammaControls, o ∈ w.outputState
  perCrtc : ∀ o ∈ w.gammaControls, ∀ o' ∈ w.gammaControls, ∀ slot,
    w.outputs.lookup o = some slot → w.outputs.lookup o' = some slot → o = o'

omit [DecidableEq ControlId] in
theorem sound_start : Sound (start : World OutputId Slot ControlId) where
  connected := fun _ h => absurd h (notMem_empty _)
  apart := fun _ h => absurd h (notMem_empty _)
  known := fun o c h => by rw [start, lookup_empty] at h; cases h
  single := fun o o' c h => by rw [start, lookup_empty] at h; cases h
  failed := fun _ h => absurd h (notMem_empty _)
  idle := fun _ slot surface h => by rw [start, lookup_empty] at h; cases h

omit [DecidableEq Slot] [DecidableEq ControlId] in
theorem exclusive_start : Exclusive (start : World OutputId Slot ControlId) where
  connected := fun _ h => absurd h notMem_empty
  perCrtc := fun _ h => absurd h notMem_empty

/-! ## The backend -/

variable {accepted : Bool}

section

omit [DecidableEq ControlId]

variable {ramp : Ramp}

/-- A surface gets the gamma, at once or when the session is active again. -/
theorem backendSetGamma_eq_some (hw : Sound w)
    (h : w.backendSetGamma output ramp accepted = some w') :
    ∃ slot surface, w.outputs.lookup output = some slot ∧ slot ∈ w.surfaces ∧
      surface.effectiveGamma = ramp ∧ (w.isActive = true → surface.pendingGammaChange = none) ∧
      w' = { w with surfaces := w.surfaces.insert slot surface } := by
  obtain ⟨slot, hslot, h⟩ := bind_eq_some_iff.mp h
  obtain ⟨surface, hsurface, h⟩ := bind_eq_some_iff.mp h
  have hmem : slot ∈ w.surfaces := mem_iff.mpr ⟨surface, hsurface⟩
  split at h
  · rename_i hinactive
    obtain rfl := some.inj h
    refine ⟨slot, _, hslot, hmem, rfl, fun hactive => ?_, rfl⟩
    rw [hinactive] at hactive
    cases hactive
  · rename_i hactive
    obtain ⟨-, rfl⟩ := ite_some_none_eq_some.mp h
    have hidle : surface.pendingGammaChange = none :=
      hw.idle (Bool.eq_true_of_not_eq_false hactive) slot surface hsurface
    refine ⟨slot, { surface with gamma := ramp }, hslot, hmem, ?_, fun _ => hidle, rfl⟩
    unfold Surface.effectiveGamma
    simp only [hidle, getD_none]

/-- A surface changes. -/
theorem Sound.setSurface {surface : Surface} (h : Sound w) (hslot : slot ∈ w.surfaces)
    (hidle : w.isActive = true → surface.pendingGammaChange = none) :
    Sound { w with surfaces := w.surfaces.insert slot surface } where
  connected := by
    intro o ho
    obtain ⟨slot', hslot', hmem⟩ := h.connected o ho
    exact ⟨slot', hslot', mem_insert.mpr (.inr hmem)⟩
  apart := h.apart
  known := h.known
  single := h.single
  failed := h.failed
  idle := by
    intro hactive slot' surface' hlookup
    by_cases heq : slot' = slot
    · subst heq
      rw [lookup_insert, some.injEq] at hlookup
      exact hlookup ▸ hidle hactive
    · rw [lookup_insert_of_ne _ heq] at hlookup
      exact h.idle hactive slot' surface' hlookup

theorem Sound.backendSetGamma (hw : Sound w)
    (h : w.backendSetGamma output ramp accepted = some w') : Sound w' := by
  obtain ⟨slot, surface, -, hslot, -, hidle, rfl⟩ := backendSetGamma_eq_some hw h
  exact hw.setSurface hslot hidle

/-- A control is not active any more. -/
theorem Sound.erase (h : Sound w) (output : OutputId) :
    Sound { w with gammaControls := w.gammaControls.erase output } where
  connected := h.connected
  apart := h.apart
  known := fun o c hlookup => h.known o c (lookup_of_erase hlookup)
  single := fun o o' c hlookup hlookup' =>
    h.single o o' c (lookup_of_erase hlookup) (lookup_of_erase hlookup')
  failed := h.failed
  idle := h.idle

end

/-- A control that is not active is sent `failed`. -/
theorem Sound.fail (h : Sound w) (hknown : control ∈ w.gammaSizes)
    (hinactive : ∀ o, w.gammaControls.lookup o ≠ some control) :
    Sound { w with failed := insert control w.failed } where
  connected := h.connected
  apart := h.apart
  known := by
    intro o c hlookup
    obtain ⟨hc, hnot⟩ := h.known o c hlookup
    refine ⟨hc, fun hmem => ?_⟩
    rcases mem_insert.mp hmem with rfl | hmem
    · exact hinactive o hlookup
    · exact hnot hmem
  single := h.single
  failed := by
    intro c hc
    rcases mem_insert.mp hc with rfl | hc
    · exact hknown
    · exact h.failed c hc
  idle := h.idle

/-! ## A control ends -/

omit [DecidableEq ControlId] in
/-- What a control that ends leaves as it is. -/
theorem endControl_spec (hw : Sound w) (output : OutputId) (resetAccepted : Bool) :
    Sound (w.endControl output resetAccepted) ∧
    (w.endControl output resetAccepted).outputs = w.outputs ∧
    (w.endControl output resetAccepted).outputState = w.outputState ∧
    (w.endControl output resetAccepted).gammaControls = w.gammaControls.erase output ∧
    (w.endControl output resetAccepted).failed = w.failed := by
  have herase := hw.erase output
  unfold endControl
  simp only
  cases hset : backendSetGamma { w with gammaControls := w.gammaControls.erase output } output none
    resetAccepted with
  | none => exact ⟨herase, rfl, rfl, rfl, rfl⟩
  | some w' =>
    obtain ⟨slot, surface, -, hslot, -, hidle, rfl⟩ := backendSetGamma_eq_some herase hset
    exact ⟨herase.setSurface hslot hidle, rfl, rfl, rfl, rfl⟩

omit [DecidableEq ControlId] in
/-- The gamma of a connected output is reset unless the device refuses. -/
theorem endControl_reset_iff (hw : Sound w) (houtput : output ∈ w.outputState)
    (resetAccepted : Bool) :
    (∃ surface, (w.endControl output resetAccepted).surface output = some surface ∧
        surface.effectiveGamma = none) ↔
      resetAccepted = true ∨ w.isActive = false ∨
        ∀ surface, w.surface output = some surface → surface.effectiveGamma = none := by
  obtain ⟨slot, hslot, hmem⟩ := hw.connected output houtput
  obtain ⟨surface, hsurface⟩ := mem_iff.mp hmem
  have hbefore : w.surface output = some surface := by
    unfold World.surface
    rw [hslot]
    exact hsurface
  have herase := hw.erase output
  unfold endControl
  simp only
  cases hset : backendSetGamma { w with gammaControls := w.gammaControls.erase output } output none
    resetAccepted with
  | none =>
    have hrefused : ¬ (resetAccepted = true ∨ w.isActive = false) := by
      rintro haccepted
      unfold backendSetGamma at hset
      simp only [hslot, hsurface, bind_some] at hset
      split at hset
      · cases hset
      · rename_i hactive
        rw [haccepted.resolve_right hactive] at hset
        cases hset
    rw [← or_assoc, or_iff_right hrefused]
    constructor
    · rintro ⟨surface', hsurface', hdefault⟩ surface'' hsurface''
      obtain rfl : surface' = surface'' := some.inj (hsurface'.symm.trans hsurface'')
      exact hdefault
    · intro hdefault
      exact ⟨surface, hbefore, hdefault surface hbefore⟩
  | some w' =>
    obtain ⟨slot', surface', hslot', -, hdefault, -, rfl⟩ := backendSetGamma_eq_some herase hset
    obtain rfl : slot = slot' := some.inj (hslot.symm.trans hslot')
    refine iff_of_true ⟨surface', ?_, hdefault⟩ ?_
    · unfold World.surface
      simp only [getD_some, hslot, bind_some]
      exact lookup_insert _
    · unfold backendSetGamma at hset
      simp only [hslot, hsurface, bind_some] at hset
      split at hset
      · rename_i hinactive
        exact .inr (.inl hinactive)
      · obtain ⟨haccepted, -⟩ := ite_none_right_eq_some.mp hset
        rw [Bool.and_eq_true] at haccepted
        exact .inl haccepted.2

theorem failControl_spec (hw : Sound w) (hactive : w.gammaControls.lookup output = some control)
    (resetAccepted : Bool) :
    Sound (w.failControl control output resetAccepted) ∧
    (w.failControl control output resetAccepted).outputs = w.outputs ∧
    (w.failControl control output resetAccepted).outputState = w.outputState ∧
    (w.failControl control output resetAccepted).gammaControls = w.gammaControls.erase output := by
  have hinactive : ∀ o, (w.gammaControls.erase output).lookup o ≠ some control := by
    intro o hlookup
    obtain rfl := hw.single o output control (lookup_of_erase hlookup) hactive
    rw [lookup_erase] at hlookup
    cases hlookup
  have herase : Sound { w with
      gammaControls := w.gammaControls.erase output, failed := insert control w.failed } :=
    (hw.erase output).fail (hw.known output control hactive).1 hinactive
  unfold failControl endControl
  simp only
  cases hset : backendSetGamma { w with
      gammaControls := w.gammaControls.erase output, failed := insert control w.failed } output none
    resetAccepted with
  | none => exact ⟨herase, rfl, rfl, rfl⟩
  | some w' =>
    obtain ⟨slot, surface, -, hslot, -, hidle, rfl⟩ := backendSetGamma_eq_some herase hset
    exact ⟨herase.setSurface hslot hidle, rfl, rfl, rfl⟩

omit [DecidableEq Slot] in
theorem outputOf_eq_some (h : w.outputOf control order = some output) :
    w.gammaControls.lookup output = some control := by
  have hfound := List.find?_some h
  exact of_decide_eq_true hfound

omit [DecidableEq Slot] in
theorem outputOf_eq_none (horder : HashMap.Lists order w.gammaControls)
    (h : w.outputOf control order = none) (o : OutputId) :
    w.gammaControls.lookup o ≠ some control := by
  intro hlookup
  have hmem : o ∈ order := horder.mem_iff.mpr (mem_iff.mpr ⟨control, hlookup⟩)
  exact of_decide_eq_false (Bool.eq_false_of_not_eq_true (List.find?_eq_none.mp h o hmem)) hlookup

/-- The table is not valid, or the device does not take it. -/
def Fails (w : World OutputId Slot ControlId) (output : OutputId) (gammaSize : ℕ)
    (file : Option (List UInt8)) (accepted : Bool) : Prop :=
  ∀ gamma, readGamma gammaSize file = some gamma →
    w.backendSetGamma output (some gamma) accepted = none

/-- What `SetGamma` does. -/
theorem setGamma_cases {gammaSize : ℕ} {file : Option (List UInt8)} {resetAccepted : Bool}
    (horder : HashMap.Lists order w.gammaControls) :
    (∀ o, w.gammaControls.lookup o ≠ some control) ∧
        w.setGamma control gammaSize file accepted resetAccepted order = w ∨
    ∃ output, w.gammaControls.lookup output = some control ∧
      ((¬ w.Fails output gammaSize file accepted ∧ ∃ gamma,
          w.backendSetGamma output (some gamma) accepted =
            some (w.setGamma control gammaSize file accepted resetAccepted order)) ∨
        w.Fails output gammaSize file accepted ∧
          w.setGamma control gammaSize file accepted resetAccepted order =
            w.failControl control output resetAccepted) := by
  unfold setGamma
  cases houtput : w.outputOf control order with
  | none => exact .inl ⟨outputOf_eq_none horder houtput, rfl⟩
  | some output =>
    refine .inr ⟨output, outputOf_eq_some houtput, ?_⟩
    cases hread : readGamma gammaSize file with
    | none =>
      refine .inr ⟨fun gamma hgamma => ?_, rfl⟩
      rw [hread] at hgamma
      cases hgamma
    | some gamma =>
      simp only
      cases hset : w.backendSetGamma output (some gamma) accepted with
      | none =>
        refine .inr ⟨fun gamma' hgamma' => ?_, rfl⟩
        rw [hread, some.injEq] at hgamma'
        exact hgamma' ▸ hset
      | some w' =>
        refine .inl ⟨fun hfails => ?_, gamma, hset⟩
        rw [hfails gamma hread] at hset
        cases hset

/-! ## Each event -/

omit [DecidableEq ControlId] in
theorem sound_connectorConnected {gammaSize : Option ℕ} (h : Sound w) (houtput : output ∉ w.outputs)
    (hslot : slot ∉ w.surfaces) : Sound (w.connectorConnected output slot gammaSize) where
  connected := by
    intro o ho
    by_cases heq : o = output
    · subst heq
      exact ⟨slot, lookup_insert _, mem_insert.mpr (.inl rfl)⟩
    · obtain ⟨slot', hslot', hmem⟩ :=
        h.connected o ((mem_insert.mp ho).resolve_left heq)
      exact ⟨slot', (lookup_insert_of_ne _ heq).trans hslot', mem_insert.mpr (.inr hmem)⟩
  apart := by
    -- The slot of an output that was connected has a surface already.
    have hother : ∀ o ∈ w.outputState, o ≠ output →
        (w.outputs.insert output slot).lookup o ≠ some slot := by
      intro o ho hne hlookup
      obtain ⟨slot', hslot', hmem⟩ := h.connected o ho
      rw [lookup_insert_of_ne _ hne, hslot', some.injEq] at hlookup
      exact hslot (hlookup ▸ hmem)
    have hself : (w.outputs.insert output slot).lookup output = some slot := lookup_insert _
    intro o ho o' ho' slot' hlookup hlookup'
    rcases mem_insert.mp ho with rfl | hold
    · rcases mem_insert.mp ho' with rfl | hold'
      · rfl
      · by_contra hne
        obtain rfl : slot = slot' := some.inj (hself.symm.trans hlookup)
        exact hother o' hold' (fun heq => hne heq.symm) hlookup'
    · rcases mem_insert.mp ho' with rfl | hold'
      · by_contra hne
        obtain rfl : slot = slot' := some.inj (hself.symm.trans hlookup')
        exact hother o hold hne hlookup
      · have hne : ∀ o ∈ w.outputState, o ≠ output := by
          rintro x hx rfl
          obtain ⟨slot', hslot', -⟩ := h.connected x hx
          exact houtput (mem_iff.mpr ⟨slot', hslot'⟩)
        refine h.apart o hold o' hold' slot' ?_ ?_
        · exact (lookup_insert_of_ne _ (hne o hold)).symm.trans hlookup
        · exact (lookup_insert_of_ne _ (hne o' hold')).symm.trans hlookup'
  known := h.known
  single := h.single
  failed := h.failed
  idle := by
    intro hactive slot' surface hlookup
    by_cases heq : slot' = slot
    · subst heq
      rw [connectorConnected, lookup_insert, some.injEq] at hlookup
      rw [← hlookup]
    · rw [connectorConnected, lookup_insert_of_ne _ heq] at hlookup
      exact h.idle hactive slot' surface hlookup

/-- The output that is removed is the one on the slot. -/
theorem connectorDisconnected_cases (slot : Slot) (horder : order.toFinset = w.outputState) :
    slot ∉ w.surfaces ∧ w.connectorDisconnected slot order = w ∨
    (∀ o ∈ w.outputState, w.outputs.lookup o ≠ some slot) ∧
        w.connectorDisconnected slot order = { w with surfaces := w.surfaces.erase slot } ∨
    ∃ output ∈ w.outputState, w.outputs.lookup output = some slot ∧
      w.connectorDisconnected slot order = { w with
        surfaces := w.surfaces.erase slot
        outputState := w.outputState.erase output
        gammaControls := w.gammaControls.erase output
        failed := match w.gammaControls.lookup output with
          | some gammaControl => insert gammaControl w.failed
          | none => w.failed } := by
  unfold connectorDisconnected
  by_cases hslot : slot ∈ w.surfaces
  · rw [if_pos hslot]
    simp only
    cases hfind : order.find? fun output => w.outputs.lookup output = some slot with
    | none =>
      refine .inr (.inl ⟨fun o ho hlookup => ?_, rfl⟩)
      have hmem : o ∈ order := List.mem_toFinset.mp (horder ▸ ho)
      exact of_decide_eq_false
        (Bool.eq_false_of_not_eq_true (List.find?_eq_none.mp hfind o hmem)) hlookup
    | some output =>
      have hfound := List.find?_some hfind
      have hmem : output ∈ w.outputState :=
        horder ▸ List.mem_toFinset.mpr (List.mem_of_find?_eq_some hfind)
      refine .inr (.inr ⟨output, hmem, of_decide_eq_true hfound, ?_⟩)
      simp only [outputRemoved]
      cases hcontrol : w.gammaControls.lookup output with
      | none =>
        have herase : w.gammaControls.erase output = w.gammaControls := by
          refine ext_lookup fun o => ?_
          by_cases heq : o = output
          · rw [heq, lookup_erase, hcontrol]
          · exact lookup_erase_ne heq
        simp only [herase]
      | some gammaControl => rfl
  · rw [if_neg hslot]
    exact .inl ⟨hslot, rfl⟩

theorem sound_connectorDisconnected (h : Sound w) (horder : order.toFinset = w.outputState) :
    Sound (w.connectorDisconnected slot order) := by
  have hidle : w.isActive = true → ∀ slot' surface, (w.surfaces.erase slot).lookup slot' =
      some surface → surface.pendingGammaChange = none :=
    fun hactive slot' surface hlookup =>
      h.idle hactive slot' surface (lookup_of_erase hlookup)
  rcases connectorDisconnected_cases slot horder with
    ⟨-, heq⟩ | ⟨hnone, heq⟩ | ⟨output, houtput, hlookup, heq⟩
  · rw [heq]
    exact h
  · rw [heq]
    refine ⟨fun o ho => ?_, h.apart, h.known, h.single, h.failed, hidle⟩
    obtain ⟨slot', hslot', hmem⟩ := h.connected o ho
    refine ⟨slot', hslot', mem_erase.mpr ⟨fun hsame => ?_, hmem⟩⟩
    exact hnone o ho (hsame ▸ hslot')
  · have hsound : Sound { w with
        surfaces := w.surfaces.erase slot, outputState := w.outputState.erase output } := by
      refine ⟨fun o ho => ?_, fun o ho o' ho' => ?_, h.known, h.single, h.failed, hidle⟩
      · obtain ⟨hne, ho⟩ := mem_erase.mp ho
        obtain ⟨slot', hslot', hmem⟩ := h.connected o ho
        refine ⟨slot', hslot', mem_erase.mpr ⟨fun hsame => ?_, hmem⟩⟩
        exact hne (h.apart o ho output houtput slot (hsame ▸ hslot') hlookup)
      · exact h.apart o (mem_of_mem_erase ho) o' (mem_of_mem_erase ho')
    rw [heq]
    cases hcontrol : w.gammaControls.lookup output with
    | none => exact hsound.erase output
    | some gammaControl =>
      refine (hsound.erase output).fail (h.known output gammaControl hcontrol).1 fun o ho => ?_
      obtain rfl := h.single o output gammaControl (lookup_of_erase ho) hcontrol
      rw [lookup_erase] at ho
      cases ho

omit [DecidableEq ControlId] in
theorem sound_activateSession (h : Sound w) (accepted : Slot → Bool) :
    Sound (w.activateSession accepted) where
  connected := by
    intro o ho
    obtain ⟨slot, hslot, hmem⟩ := h.connected o ho
    obtain ⟨surface, hsurface⟩ := mem_iff.mp hmem
    refine ⟨slot, hslot, mem_iff.mpr ⟨surface.applyPending (accepted slot), ?_⟩⟩
    rw [activateSession, lookup_mapEntries, hsurface]
    rfl
  apart := h.apart
  known := h.known
  single := h.single
  failed := h.failed
  idle := by
    intro _ slot surface hlookup
    rw [activateSession, lookup_mapEntries] at hlookup
    obtain ⟨surface', -, rfl⟩ := map_eq_some_iff.mp hlookup
    unfold Surface.applyPending
    split
    · assumption
    · split <;> rfl

/-- What `GetGammaControl` does: the control is active, or was sent `failed`. -/
theorem getGammaControl_cases (id : ControlId) (output : Option OutputId) :
    (∃ o gammaSize, output = some o ∧ o ∉ w.gammaControls ∧ w.getGammaSize o = some gammaSize ∧
        w.getGammaControl id output = { w with
          gammaSizes := w.gammaSizes.insert id gammaSize
          gammaControls := w.gammaControls.insert o id }) ∨
    (∀ o, output = some o → o ∈ w.gammaControls ∨ w.getGammaSize o = none) ∧
      w.getGammaControl id output = { w with
        gammaSizes := w.gammaSizes.insert id 0, failed := insert id w.failed } := by
  unfold getGammaControl
  cases output with
  | none => exact .inr ⟨nofun, rfl⟩
  | some o =>
    simp only
    by_cases hactive : o ∈ w.gammaControls
    · rw [if_pos hactive]
      exact .inr ⟨fun o' ho' => .inl (some.inj ho' ▸ hactive), rfl⟩
    · rw [if_neg hactive]
      cases hsize : w.getGammaSize o with
      | none => exact .inr ⟨fun o' ho' => .inr (some.inj ho' ▸ hsize), rfl⟩
      | some gammaSize => exact .inl ⟨o, gammaSize, rfl, hactive, hsize, rfl⟩

theorem sound_getGammaControl (h : Sound w) {id : ControlId} (hid : id ∉ w.gammaSizes)
    (o : Option OutputId) : Sound (w.getGammaControl id o) := by
  have hknown : ∀ c ∈ w.gammaSizes, ∀ size, c ∈ w.gammaSizes.insert id size :=
    fun c hc size => mem_insert.mpr (.inr hc)
  rcases getGammaControl_cases (w := w) id o with
    ⟨output, gammaSize, rfl, -, -, heq⟩ | ⟨-, heq⟩
  · rw [heq]
    have hfresh : ∀ o c, w.gammaControls.lookup o = some c → c ≠ id := by
      rintro o c hlookup rfl
      exact hid (h.known o c hlookup).1
    refine ⟨h.connected, h.apart, fun o c hlookup => ?_, fun o o' c hlookup hlookup' => ?_,
      fun c hc => hknown c (h.failed c hc) gammaSize, h.idle⟩
    · by_cases ho : o = output
      · subst ho
        rw [lookup_insert, some.injEq] at hlookup
        subst hlookup
        exact ⟨mem_insert.mpr (.inl rfl), fun hmem => hid (h.failed id hmem)⟩
      · rw [lookup_insert_of_ne _ ho] at hlookup
        obtain ⟨hc, hnot⟩ := h.known o c hlookup
        exact ⟨hknown c hc gammaSize, hnot⟩
    · by_cases ho : o = output
      · by_cases ho' : o' = output
        · rw [ho, ho']
        · rw [ho, lookup_insert, some.injEq] at hlookup
          rw [lookup_insert_of_ne _ ho'] at hlookup'
          exact absurd hlookup.symm (hfresh o' c hlookup')
      · rw [lookup_insert_of_ne _ ho] at hlookup
        by_cases ho' : o' = output
        · rw [ho', lookup_insert, some.injEq] at hlookup'
          exact absurd hlookup'.symm (hfresh o c hlookup)
        · rw [lookup_insert_of_ne _ ho'] at hlookup'
          exact h.single o o' c hlookup hlookup'
  · rw [heq]
    have hsound : Sound { w with gammaSizes := w.gammaSizes.insert id 0 } :=
      ⟨h.connected, h.apart, fun o c hlookup => ⟨hknown c (h.known o c hlookup).1 0,
        (h.known o c hlookup).2⟩, h.single, fun c hc => hknown c (h.failed c hc) 0, h.idle⟩
    refine hsound.fail (mem_insert.mpr (.inl rfl)) fun o hlookup => ?_
    exact hid (h.known o id hlookup).1

theorem sound_step (h : Sound w) (hstep : step w e = some w') : Sound w' := by
  cases e with
  | connectorConnected output slot gammaSize =>
    obtain ⟨⟨houtput, hslot⟩, rfl⟩ := ite_some_none_eq_some.mp hstep
    exact sound_connectorConnected h houtput hslot
  | connectorDisconnected slot order =>
    obtain ⟨⟨-, horder⟩, rfl⟩ := ite_some_none_eq_some.mp hstep
    exact sound_connectorDisconnected h horder
  | pauseSession =>
    obtain rfl := some.inj hstep
    exact ⟨h.connected, h.apart, h.known, h.single, h.failed, nofun⟩
  | activateSession accepted =>
    obtain rfl := some.inj hstep
    exact sound_activateSession h accepted
  | getGammaControl id output =>
    obtain ⟨⟨hid, -⟩, rfl⟩ := ite_some_none_eq_some.mp hstep
    exact sound_getGammaControl h hid output
  | setGamma control file accepted resetAccepted order =>
    obtain ⟨gammaSize, -, hstep⟩ := bind_eq_some_iff.mp hstep
    obtain ⟨horder, rfl⟩ := ite_some_none_eq_some.mp hstep
    rcases setGamma_cases (w := w) horder with
      ⟨-, heq⟩ | ⟨output, hactive, ⟨-, gamma, hset⟩ | ⟨-, heq⟩⟩
    · rw [heq]
      exact h
    · exact h.backendSetGamma hset
    · rw [heq]
      exact (failControl_spec h hactive resetAccepted).1
  | destroyed control resetAccepted order =>
    obtain ⟨-, rfl⟩ := ite_some_none_eq_some.mp hstep
    unfold destroyed
    split
    · exact h
    · exact (endControl_spec h _ resetAccepted).1

/-! ## Exclusive control -/

/-- No control is handed out for an output that is gone while its CRTC drives another. -/
def NamesConnected (w : World OutputId Slot ControlId) (e : Event OutputId Slot ControlId) : Prop :=
  ∀ id output, e = .getGammaControl id (some output) →
    output ∈ w.outputState ∨ w.getGammaSize output = none

section

omit [DecidableEq Slot] [DecidableEq ControlId]

/-- Fewer controls. -/
theorem Exclusive.erase (h : Exclusive w) (output : OutputId) :
    Exclusive { w with gammaControls := w.gammaControls.erase output } where
  connected := fun o ho => h.connected o (mem_erase.mp ho).2
  perCrtc := fun o ho o' ho' => h.perCrtc o (mem_erase.mp ho).2 o' (mem_erase.mp ho').2

/-- What the controls and the outputs are decides. -/
theorem Exclusive.congr (h : Exclusive w) (houtputs : w'.outputs = w.outputs)
    (hstate : w'.outputState = w.outputState) (hcontrols : w'.gammaControls = w.gammaControls) :
    Exclusive w' where
  connected := by
    rw [hcontrols, hstate]
    exact h.connected
  perCrtc := by
    rw [hcontrols, houtputs]
    exact h.perCrtc

/-- Controls of connected outputs are exclusive. -/
theorem Sound.exclusive [DecidableEq Slot] (h : Sound w)
    (hconnected : ∀ o ∈ w.gammaControls, o ∈ w.outputState) : Exclusive w where
  connected := hconnected
  perCrtc := fun o ho o' ho' => h.apart o (hconnected o ho) o' (hconnected o' ho')

end

/-- Each event. -/
theorem exclusive_step_iff (hsound : Sound w) (h : Exclusive w) (hstep : step w e = some w') :
    Exclusive w' ↔ NamesConnected w e := by
  have hsound' : Sound w' := sound_step hsound hstep
  cases e with
  | getGammaControl id output =>
    obtain ⟨-, rfl⟩ := ite_some_none_eq_some.mp hstep
    rcases getGammaControl_cases (w := w) id output with
      ⟨o, gammaSize, rfl, -, hsize, heq⟩ | ⟨hfails, heq⟩
    · constructor
      · intro hexclusive id' output' hevent
        cases hevent
        rw [heq] at hexclusive
        exact .inl (hexclusive.connected o (mem_insert.mpr (.inl rfl)))
      · intro hnames
        have hconnected : o ∈ w.outputState := (hnames id o rfl).resolve_right fun hnone => by
          rw [hsize] at hnone
          cases hnone
        refine hsound'.exclusive fun o' ho' => ?_
        rw [heq] at ho' ⊢
        rcases mem_insert.mp ho' with rfl | ho'
        · exact hconnected
        · exact h.connected o' ho'
    · refine iff_of_true ?_ fun id' output' hevent => ?_
      · rw [heq]
        exact h.congr rfl rfl rfl
      · cases hevent
        exact (hfails output' rfl).imp_left (h.connected output')
  | connectorConnected output slot gammaSize =>
    obtain ⟨-, rfl⟩ := ite_some_none_eq_some.mp hstep
    refine iff_of_true (hsound'.exclusive fun o ho => ?_) nofun
    exact mem_insert_of_mem (h.connected o ho)
  | connectorDisconnected slot order =>
    obtain ⟨⟨-, horder⟩, rfl⟩ := ite_some_none_eq_some.mp hstep
    refine iff_of_true ?_ nofun
    rcases connectorDisconnected_cases slot horder with
      ⟨-, heq⟩ | ⟨-, heq⟩ | ⟨output, -, -, heq⟩
    · rw [heq]
      exact h
    · rw [heq]
      exact h.congr rfl rfl rfl
    · refine hsound'.exclusive fun o ho => ?_
      rw [heq] at ho ⊢
      obtain ⟨hne, ho⟩ := mem_erase.mp ho
      exact mem_erase.mpr ⟨hne, h.connected o ho⟩
  | pauseSession | activateSession =>
    obtain rfl := some.inj hstep
    exact iff_of_true (h.congr rfl rfl rfl) nofun
  | setGamma control file accepted resetAccepted order =>
    obtain ⟨gammaSize, -, hstep⟩ := bind_eq_some_iff.mp hstep
    obtain ⟨horder, rfl⟩ := ite_some_none_eq_some.mp hstep
    refine iff_of_true ?_ nofun
    rcases setGamma_cases (w := w) horder with
      ⟨-, heq⟩ | ⟨output, hactive, ⟨-, gamma, hset⟩ | ⟨-, heq⟩⟩
    · rw [heq]
      exact h
    · obtain ⟨slot, surface, -, -, -, -, heq⟩ := backendSetGamma_eq_some hsound hset
      rw [heq]
      exact h.congr rfl rfl rfl
    · obtain ⟨-, houtputs, hstate, hcontrols⟩ := failControl_spec hsound hactive resetAccepted
      rw [heq]
      exact (h.erase output).congr houtputs hstate hcontrols
  | destroyed control resetAccepted order =>
    obtain ⟨-, rfl⟩ := ite_some_none_eq_some.mp hstep
    refine iff_of_true ?_ nofun
    unfold destroyed
    split
    · exact h
    · rename_i output houtput
      obtain ⟨-, houtputs, hstate, hcontrols, -⟩ := endControl_spec hsound output resetAccepted
      exact (h.erase output).congr houtputs hstate hcontrols

end World

/-! ## Resetting the gamma -/

/-- The control that a request is made on. -/
def Event.control : Event OutputId Slot ControlId → Option ControlId
  | .setGamma control _ _ _ _ | .destroyed control _ _ => some control
  | _ => none

/-- The device takes the default ramp. -/
def Event.resetAccepted : Event OutputId Slot ControlId → Bool
  | .setGamma _ _ _ resetAccepted _ | .destroyed _ resetAccepted _ => resetAccepted
  | _ => true

namespace World

variable {w w' : World OutputId Slot ControlId} {e : Event OutputId Slot ControlId}
variable {output : OutputId} {control : ControlId} {order : List OutputId}

/-- The active control of the output ends: it is destroyed, or its table is not taken. -/
def Ends (w : World OutputId Slot ControlId) (output : OutputId) :
    Event OutputId Slot ControlId → Prop
  | .setGamma control file accepted _ _ => w.gammaControls.lookup output = some control ∧
    ∀ gammaSize, w.gammaSizes.lookup control = some gammaSize →
      w.Fails output gammaSize file accepted
  | .destroyed control _ _ => w.gammaControls.lookup output = some control
  | _ => False

/-- The device takes the default ramp when the control of a connected output ends, or need not. -/
def ResetTakes (w : World OutputId Slot ControlId) (e : Event OutputId Slot ControlId) : Prop :=
  ∀ output, w.Ends output e → output ∈ w.outputState →
    e.resetAccepted = true ∨ w.isActive = false ∨
      ∀ surface, w.surface output = some surface → surface.effectiveGamma = none

/-- An output that stays connected when its active control ends has the default gamma. -/
def GammaReset (w w' : World OutputId Slot ControlId) : Prop :=
  ∀ output control, w.gammaControls.lookup output = some control →
    w'.gammaControls.lookup output ≠ some control → output ∈ w'.outputState →
    ∃ surface, w'.surface output = some surface ∧ surface.effectiveGamma = none

omit [DecidableEq ControlId] in
/-- Controls that stay. -/
theorem gammaReset_of_lookup
    (h : ∀ o c, w.gammaControls.lookup o = some c → o ∈ w'.outputState →
      w'.gammaControls.lookup o = some c) : GammaReset w w' :=
  fun o c hlookup hended hconnected => absurd (h o c hlookup hconnected) hended

omit [DecidableEq ControlId] in
/-- The control of one output ends. -/
theorem gammaReset_iff_of_erase
    (hactive : w.gammaControls.lookup output = some control)
    (hstate : w'.outputState = w.outputState)
    (hcontrols : w'.gammaControls = w.gammaControls.erase output) :
    GammaReset w w' ↔ (output ∈ w.outputState →
      ∃ surface, w'.surface output = some surface ∧ surface.effectiveGamma = none) := by
  constructor
  · intro h houtput
    refine h output control hactive ?_ (hstate ▸ houtput)
    rw [hcontrols, lookup_erase]
    exact nofun
  · intro h o c hlookup hended hconnected
    by_cases heq : o = output
    · subst heq
      exact h (hstate ▸ hconnected)
    · rw [hcontrols, lookup_erase_ne heq] at hended
      exact absurd hlookup hended

theorem gammaReset_iff (hsound : Sound w) (hstep : step w e = some w') :
    GammaReset w w' ↔ ResetTakes w e := by
  cases e with
  | connectorConnected output slot gammaSize =>
    obtain ⟨-, rfl⟩ := ite_some_none_eq_some.mp hstep
    exact iff_of_true (gammaReset_of_lookup fun o c hlookup _ => hlookup) fun _ h => h.elim
  | connectorDisconnected slot order =>
    obtain ⟨⟨-, horder⟩, rfl⟩ := ite_some_none_eq_some.mp hstep
    refine iff_of_true (gammaReset_of_lookup fun o c hlookup hconnected => ?_) fun _ h => h.elim
    rcases connectorDisconnected_cases slot horder with
      ⟨-, heq⟩ | ⟨-, heq⟩ | ⟨output, -, -, heq⟩
    · rw [heq]
      exact hlookup
    · rw [heq]
      exact hlookup
    · rw [heq] at hconnected ⊢
      exact (lookup_erase_ne (mem_erase.mp hconnected).1).trans hlookup
  | pauseSession | activateSession =>
    obtain rfl := some.inj hstep
    exact iff_of_true (gammaReset_of_lookup fun o c hlookup _ => hlookup) fun _ h => h.elim
  | getGammaControl id output =>
    obtain ⟨-, rfl⟩ := ite_some_none_eq_some.mp hstep
    refine iff_of_true (gammaReset_of_lookup fun o c hlookup _ => ?_) fun _ h => h.elim
    rcases getGammaControl_cases (w := w) id output with
      ⟨output', gammaSize, rfl, hnew, -, heq⟩ | ⟨-, heq⟩
    · rw [heq]
      have hne : o ≠ output' := by
        rintro rfl
        exact hnew (mem_iff.mpr ⟨c, hlookup⟩)
      exact (lookup_insert_of_ne _ hne).trans hlookup
    · rw [heq]
      exact hlookup
  | setGamma control file accepted resetAccepted order =>
    obtain ⟨gammaSize, hsize, hstep⟩ := bind_eq_some_iff.mp hstep
    obtain ⟨horder, rfl⟩ := ite_some_none_eq_some.mp hstep
    rcases setGamma_cases (w := w) horder with
      ⟨hnone, heq⟩ | ⟨output, hactive, ⟨hsucceeds, gamma, hset⟩ | ⟨hfails, heq⟩⟩
    · rw [heq]
      exact iff_of_true (gammaReset_of_lookup fun o c hlookup _ => hlookup)
        fun o hends => absurd hends.1 (hnone o)
    · obtain ⟨slot, surface, -, -, -, -, heq⟩ := backendSetGamma_eq_some hsound hset
      rw [heq]
      refine iff_of_true (gammaReset_of_lookup fun o c hlookup _ => hlookup) fun o hends => ?_
      obtain rfl := hsound.single o output control hends.1 hactive
      exact absurd (hends.2 gammaSize hsize) hsucceeds
    · obtain ⟨-, -, hstate, hcontrols⟩ := failControl_spec hsound hactive resetAccepted
      rw [heq, gammaReset_iff_of_erase hactive hstate hcontrols]
      have hreset : output ∈ w.outputState →
          ((∃ surface, (w.failControl control output resetAccepted).surface output = some surface ∧
            surface.effectiveGamma = none) ↔ (resetAccepted = true ∨ w.isActive = false ∨
              ∀ surface, w.surface output = some surface → surface.effectiveGamma = none)) := by
        intro houtput
        -- That `failed` was sent does not matter to the gamma.
        have hsame : (w.failControl control output resetAccepted).surface output =
            (w.endControl output resetAccepted).surface output := by
          unfold failControl endControl backendSetGamma World.surface
          simp only
          cases hslot : w.outputs.lookup output with
          | none => simp only [bind_none, getD_none, hslot]
          | some slot =>
            cases hsurface : w.surfaces.lookup slot with
            | none => simp only [bind_some, hsurface, bind_none, getD_none, hslot]
            | some surface =>
              simp only [bind_some, hsurface]
              split
              · simp only [getD_some, hslot]
              · split
                · simp only [getD_some, hslot]
                · simp only [getD_none, hslot]
        rw [hsame]
        exact endControl_reset_iff hsound houtput resetAccepted
      constructor
      · intro h o hends hconnected
        obtain rfl := hsound.single o output control hends.1 hactive
        exact (hreset hconnected).mp (h hconnected)
      · intro h houtput
        refine (hreset houtput).mpr (h output ⟨hactive, fun gammaSize' hsize' => ?_⟩ houtput)
        rw [hsize, some.injEq] at hsize'
        exact hsize' ▸ hfails
  | destroyed control resetAccepted order =>
    obtain ⟨horder, rfl⟩ := ite_some_none_eq_some.mp hstep
    unfold destroyed
    cases houtput : w.outputOf control order with
    | none =>
      exact iff_of_true (gammaReset_of_lookup fun o c hlookup _ => hlookup)
        fun o hends => absurd hends (outputOf_eq_none horder houtput o)
    | some output =>
      have hactive := outputOf_eq_some houtput
      obtain ⟨-, -, hstate, hcontrols, -⟩ := endControl_spec hsound output resetAccepted
      rw [gammaReset_iff_of_erase hactive hstate hcontrols]
      constructor
      · intro h o hends hconnected
        obtain rfl := hsound.single o output control hends hactive
        exact (endControl_reset_iff hsound hconnected resetAccepted).mp (h hconnected)
      · intro h hconnected
        exact (endControl_reset_iff hsound hconnected resetAccepted).mpr (h output hactive hconnected)

/-- A control that was sent `failed` changes nothing. -/
theorem step_of_failed (hsound : Sound w) (hfailed : control ∈ w.failed)
    (hcontrol : e.control = some control) (hstep : step w e = some w') : w' = w := by
  have hinactive : ∀ order, w.outputOf control order = none := by
    intro order
    cases houtput : w.outputOf control order with
    | none => rfl
    | some output => exact absurd hfailed (hsound.known output control (outputOf_eq_some houtput)).2
  cases e with
  | setGamma control' file accepted resetAccepted order =>
    cases hcontrol
    obtain ⟨gammaSize, -, hstep⟩ := bind_eq_some_iff.mp hstep
    obtain ⟨-, rfl⟩ := ite_some_none_eq_some.mp hstep
    unfold setGamma
    rw [hinactive]
  | destroyed control' resetAccepted order =>
    cases hcontrol
    obtain ⟨-, rfl⟩ := ite_some_none_eq_some.mp hstep
    unfold destroyed
    rw [hinactive]
  | _ => cases hcontrol

/-- The gamma is reset where a control ends, and one that was sent `failed` does not change it. -/
def KeepsGamma (w : World OutputId Slot ControlId) (e : Event OutputId Slot ControlId) : Prop :=
  ∀ w', step w e = some w' → GammaReset w w' ∧
    ∀ control ∈ w.failed, e.control = some control → w'.surfaces = w.surfaces

/-- An output is removed, another takes its CRTC, and a client asks for control of both. -/
def replugRun : List (Event ℕ Unit ℕ) :=
  [.connectorConnected 0 () (some 1), .connectorDisconnected () [0],
    .connectorConnected 1 () (some 1), .getGammaControl 0 (some 1), .getGammaControl 1 (some 0)]

end World

end Tiri.Protocols.GammaControl
