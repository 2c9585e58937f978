import Tiri.Config.LayoutPart
import Tiri.Config.OutputNames

/-!
# Outputs, as they are and as they are configured

`niri_ipc::Output` tells how an output is, and `niri_config::Output` how it is to be set up.  An
entry of the config is found by the connector, or by make, model and serial.
-/

namespace Tiri.NiriIpc

/-- `niri_ipc::Transform`. -/
inductive Transform
  | normal
  | _90
  | _180
  | _270
  | flipped
  | flipped90
  | flipped180
  | flipped270
  deriving DecidableEq

/-- `niri_ipc::Mode`, with the refresh rate in millihertz. -/
structure Mode where
  width : ℕ
  height : ℕ
  refreshRate : ℕ
  isPreferred : Bool
  deriving DecidableEq

/-- `niri_ipc::LogicalOutput`. -/
structure LogicalOutput where
  x : ℤ
  y : ℤ
  width : ℕ
  height : ℕ
  scale : ℚ
  transform : Transform
  deriving DecidableEq

/-- `niri_ipc::Output`.  The current mode is an index into the modes. -/
structure Output where
  name : String
  make : String
  model : String
  serial : Option String
  physicalSize : Option (ℕ × ℕ)
  modes : List Mode
  currentMode : Option ℕ
  vrrEnabled : Bool
  logical : Option LogicalOutput
  currentMode_lt : ∀ i ∈ currentMode, i < modes.length
  deriving DecidableEq

end Tiri.NiriIpc

namespace Tiri.NiriConfig

open NiriIpc (Transform)

/-- `niri_ipc::ConfiguredMode`, with the refresh rate in millihertz. -/
structure ConfiguredMode where
  width : ℕ
  height : ℕ
  refresh : Option ℕ
  deriving DecidableEq

/-- `output::Mode`. -/
structure Mode where
  custom : Bool
  mode : ConfiguredMode
  deriving DecidableEq

/-- `Modeline`, with the clock in kilohertz and whether the polarities are positive. -/
structure Modeline where
  clock : ℕ
  hdisplay : ℕ
  hsyncStart : ℕ
  hsyncEnd : ℕ
  htotal : ℕ
  vdisplay : ℕ
  vsyncStart : ℕ
  vsyncEnd : ℕ
  vtotal : ℕ
  hsyncPolarity : Bool
  vsyncPolarity : Bool
  deriving DecidableEq

structure Vrr where
  onDemand : Bool
  deriving DecidableEq

structure HotCorners where
  off : Bool
  topLeft : Bool
  topRight : Bool
  bottomLeft : Bool
  bottomRight : Bool
  deriving DecidableEq

/-- `niri_config::Output`. -/
structure Output where
  off : Bool
  name : String
  scale : Option ℚ
  transform : Transform
  position : Option (ℤ × ℤ)
  mode : Option Mode
  modeline : Option Modeline
  variableRefreshRate : Option Vrr
  focusAtStartup : Bool
  backgroundColor : Option Color
  backdropColor : Option Color
  hotCorners : Option HotCorners
  layout : Option LayoutPart
  deriving DecidableEq

/-- `Output::default`, with the name. -/
def Output.named (name : String) : Output where
  off := false
  name := name
  scale := none
  transform := .normal
  position := none
  mode := none
  modeline := none
  variableRefreshRate := none
  focusAtStartup := false
  backgroundColor := none
  backdropColor := none
  hotCorners := none
  layout := none

/-- `niri_config::Outputs`. -/
abbrev Outputs := List Output

/-- `OutputName::from_ipc_output`. -/
def OutputName.fromIpcOutput (output : NiriIpc.Output) : OutputName where
  connector := output.name
  make := if output.make ≠ "Unknown" then some output.make else none
  model := if output.model ≠ "Unknown" then some output.model else none
  serial := output.serial

/-- `Outputs::find`. -/
def Outputs.find (outputs : Outputs) (name : OutputName) : Option Output :=
  List.find? (fun o => name.matchesTarget o.name) outputs

end Tiri.NiriConfig
