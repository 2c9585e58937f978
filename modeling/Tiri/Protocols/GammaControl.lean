import Tiri.Lib.HashMap

/-!
# Gamma controls

`src/protocols/gamma_control.rs`, with what `src/backend/tty.rs` makes of it: a client takes control
of the gamma of an output, whose connector is driven by a CRTC of a device.

A client can name an output for as long as it has the `wl_output`, which it keeps when the output is
removed.  Whether the device accepts a ramp is part of what happens.
-/

namespace Tiri.Protocols.GammaControl

/-- A gamma ramp; `none` is the default one. -/
abbrev Ramp := Option (List ℕ)

/-- `Surface`: what drives an output through a CRTC, as far as gamma goes. -/
structure Surface where
  /-- What is read from the device. -/
  gammaSize : Option ℕ
  gamma : Ramp
  pendingGammaChange : Option Ramp

namespace Surface

variable (surface : Surface)

/-- The gamma as soon as the device is active. -/
def effectiveGamma : Ramp := surface.pendingGammaChange.getD surface.gamma

/-- A ramp has three entries for each step of the device. -/
def fits : Ramp → Bool
  | none => true
  | some ramp => surface.gammaSize.any fun size => ramp.length = size * 3

/-- The change that is pending is made. -/
def applyPending (accepted : Bool) : Surface :=
  match surface.pendingGammaChange with
  | none => surface
  | some ramp =>
    if surface.fits ramp && accepted then
      { surface with gamma := ramp, pendingGammaChange := none }
    else { surface with pendingGammaChange := none }

end Surface

/-- The compositor, as far as gamma goes. -/
structure World (OutputId Slot ControlId : Type) where
  /-- Every output there was, with its device and CRTC. -/
  outputs : HashMap OutputId Slot
  /-- The outputs that are connected. -/
  outputState : Finset OutputId
  surfaces : HashMap Slot Surface
  isActive : Bool
  gammaControls : HashMap OutputId ControlId
  /-- The controls there were, with their data. -/
  gammaSizes : HashMap ControlId ℕ
  /-- The controls that were sent `failed`. -/
  failed : Finset ControlId

/-- What happens, with what the device answers and the order in which a map is searched. -/
inductive Event (OutputId Slot ControlId : Type)
  | connectorConnected (output : OutputId) (slot : Slot) (gammaSize : Option ℕ)
  | connectorDisconnected (slot : Slot) (order : List OutputId)
  | pauseSession
  | activateSession (accepted : Slot → Bool)
  | getGammaControl (id : ControlId) (output : Option OutputId)
  | setGamma (control : ControlId) (file : Option (List UInt8)) (accepted resetAccepted : Bool)
      (order : List OutputId)
  | destroyed (control : ControlId) (resetAccepted : Bool) (order : List OutputId)

/-- `bytemuck::cast_slice_mut`, of a machine that is little-endian. -/
def toU16 : List UInt8 → List ℕ
  | low :: high :: rest => (low.toNat + 256 * high.toNat) :: toU16 rest
  | _ => []

/-- The table that a client sends: neither shorter nor longer, and without an error. -/
def readGamma (gammaSize : ℕ) (file : Option (List UInt8)) : Option (List ℕ) :=
  file.bind fun bytes => if bytes.length = gammaSize * 3 * 2 then some (toU16 bytes) else none

namespace World

variable {OutputId Slot ControlId : Type}
variable [DecidableEq OutputId] [DecidableEq Slot] [DecidableEq ControlId]

/-- There are no outputs yet. -/
def start : World OutputId Slot ControlId where
  outputs := ∅
  outputState := ∅
  surfaces := ∅
  isActive := true
  gammaControls := ∅
  gammaSizes := ∅
  failed := ∅

/-! ## The backend -/

variable (w : World OutputId Slot ControlId)

/-- The surface of the device and CRTC of an output. -/
def surface (output : OutputId) : Option Surface :=
  (w.outputs.lookup output).bind fun slot => w.surfaces.lookup slot

def getGammaSize (output : OutputId) : Option ℕ :=
  (w.surface output).bind fun surface => surface.gammaSize.filter fun size => size ≠ 0

/-- `set_gamma`. -/
def backendSetGamma (output : OutputId) (ramp : Ramp) (accepted : Bool) :
    Option (World OutputId Slot ControlId) :=
  (w.outputs.lookup output).bind fun slot =>
    (w.surfaces.lookup slot).bind fun surface =>
      -- Cannot change properties while the device is inactive.
      if w.isActive = false then
        let surface := { surface with pendingGammaChange := some ramp }
        some { w with surfaces := w.surfaces.insert slot surface }
      else if surface.fits ramp && accepted then
        some { w with surfaces := w.surfaces.insert slot { surface with gamma := ramp } }
      else none

/-! ## The handlers -/

def outputRemoved (output : OutputId) : World OutputId Slot ControlId :=
  match w.gammaControls.lookup output with
  | some gammaControl =>
    { w with
      gammaControls := w.gammaControls.erase output
      failed := insert gammaControl w.failed }
  | none => w

/-- `GetGammaControl`, with the output of the `wl_output`. -/
def getGammaControl (id : ControlId) (output : Option OutputId) : World OutputId Slot ControlId :=
  let fail : World OutputId Slot ControlId :=
    { w with gammaSizes := w.gammaSizes.insert id 0, failed := insert id w.failed }
  match output with
  | none => fail
  | some output =>
    if output ∈ w.gammaControls then fail
    else
      match w.getGammaSize output with
      | none => fail
      | some gammaSize =>
        { w with
          gammaSizes := w.gammaSizes.insert id gammaSize
          gammaControls := w.gammaControls.insert output id }

/-- The output that a control is active for. -/
def outputOf (control : ControlId) (order : List OutputId) : Option OutputId :=
  order.find? fun output => w.gammaControls.lookup output = some control

/-- A control ends, and the gamma of its output is reset. -/
def endControl (output : OutputId) (resetAccepted : Bool) : World OutputId Slot ControlId :=
  let w := { w with gammaControls := w.gammaControls.erase output }
  (w.backendSetGamma output none resetAccepted).getD w

/-- A control is sent `failed`, and ends. -/
def failControl (control : ControlId) (output : OutputId) (resetAccepted : Bool) :
    World OutputId Slot ControlId :=
  { w with failed := insert control w.failed }.endControl output resetAccepted

/-- `SetGamma`. -/
def setGamma (control : ControlId) (gammaSize : ℕ) (file : Option (List UInt8))
    (accepted resetAccepted : Bool) (order : List OutputId) : World OutputId Slot ControlId :=
  match w.outputOf control order with
  | none => w
  | some output =>
    match readGamma gammaSize file with
    | none => w.failControl control output resetAccepted
    | some gamma =>
      match w.backendSetGamma output (some gamma) accepted with
      | some w => w
      | none => w.failControl control output resetAccepted

def destroyed (control : ControlId) (resetAccepted : Bool) (order : List OutputId) :
    World OutputId Slot ControlId :=
  match w.outputOf control order with
  | none => w
  | some output => w.endControl output resetAccepted

/-- `connector_connected`: the gamma is reset in case it was set before. -/
def connectorConnected (output : OutputId) (slot : Slot) (gammaSize : Option ℕ) :
    World OutputId Slot ControlId :=
  { w with
    outputs := w.outputs.insert output slot
    outputState := insert output w.outputState
    surfaces := w.surfaces.insert slot ⟨gammaSize, none, none⟩ }

/-- `connector_disconnected`, with the order of the outputs in the global space. -/
def connectorDisconnected (slot : Slot) (order : List OutputId) : World OutputId Slot ControlId :=
  if slot ∈ w.surfaces then
    let w := { w with surfaces := w.surfaces.erase slot }
    match order.find? fun output => w.outputs.lookup output = some slot with
    | none => w
    | some output =>
      let w := w.outputRemoved output
      { w with outputState := w.outputState.erase output }
  else w

/-- A session that is active again makes the changes that are pending. -/
def activateSession (accepted : Slot → Bool) : World OutputId Slot ControlId :=
  { w with
    isActive := true
    surfaces := HashMap.mapEntries (fun slot surface => surface.applyPending (accepted slot))
      w.surfaces }

/-! ## Runs -/

/-- What an event does, where it can happen.  A connector that is connected has a CRTC of its own,
and a client names outputs that there were. -/
def step : Event OutputId Slot ControlId → Option (World OutputId Slot ControlId)
  | .connectorConnected output slot gammaSize =>
    if output ∉ w.outputs ∧ slot ∉ w.surfaces then
      some (w.connectorConnected output slot gammaSize)
    else none
  | .connectorDisconnected slot order =>
    if order.Nodup ∧ order.toFinset = w.outputState then
      some (w.connectorDisconnected slot order)
    else none
  | .pauseSession => some { w with isActive := false }
  | .activateSession accepted => some (w.activateSession accepted)
  | .getGammaControl id output =>
    if id ∉ w.gammaSizes ∧ ∀ o ∈ output, o ∈ w.outputs then some (w.getGammaControl id output)
    else none
  | .setGamma control file accepted resetAccepted order =>
    (w.gammaSizes.lookup control).bind fun gammaSize =>
      if HashMap.Lists order w.gammaControls then
        some (w.setGamma control gammaSize file accepted resetAccepted order)
      else none
  | .destroyed control resetAccepted order =>
    if HashMap.Lists order w.gammaControls then some (w.destroyed control resetAccepted order)
    else none

end World

end Tiri.Protocols.GammaControl
