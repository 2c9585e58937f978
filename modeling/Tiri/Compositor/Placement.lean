import Tiri.Config.Outputs
import Tiri.Lib.Sort
import Tiri.Utils.Geometry

/-!
# The placement of the outputs

`Niri::reposition_outputs`: the outputs are put anew into the global space whenever one is added,
removed or configured.

The space tells the geometry of an output with its logical size rounded up.  A coordinate beyond
`i32::MAX` is a panic.
-/

namespace Tiri.Placement

open NiriIpc (Transform)
open Utils (Point Size Rectangle)
open Utils.Rectangle (i32Max)

def transformSize {K : Type} (transform : Transform) (size : Size K) : Size K :=
  match transform with
  | ._90 | ._270 | .flipped90 | .flipped270 => ⟨size.h, size.w⟩
  | .normal | ._180 | .flipped | .flipped180 => size

/-- An output, with its current scale and transform. -/
structure Output where
  name : NiriConfig.OutputName
  scale : ℚ
  /-- The current mode over the scale.  The code divides `f64`s, which round: the quotients are any
  rationals here. -/
  logicalSize : Size ℚ
  transform : Transform
  deriving DecidableEq

namespace Output

/-- `output_size`. -/
def size (output : Output) : Size ℚ := transformSize output.transform output.logicalSize

/-- `Space::output_geometry`, of an output at the location. -/
def geometry (output : Output) (loc : Point ℤ) : Rectangle ℤ := ⟨loc, output.size.toI32Ceil⟩

end Output

/-- The global space: the outputs that are mapped, and where. -/
abbrev Space := List (Output × Point ℤ)

namespace Space

variable (space : Space)

def outputs : List Output := space.map Prod.fst

def unmapOutput (output : Output) : Space :=
  space.filter fun entry => entry.1 ≠ output

def mapOutput (output : Output) (location : Point ℤ) : Space :=
  if output ∈ space.outputs then
    space.map fun entry => if entry.1 = output then (output, location) else entry
  else space ++ [(output, location)]

/-- The right edges of the outputs. -/
def rightEdges : Option (List ℤ) :=
  space.mapM fun (output, loc) =>
    let x := loc.x + (output.geometry loc).size.w
    if x ≤ i32Max then some x else none

/-- Where an output goes that has no position of its own. -/
def nextPosition : Option (Point ℤ) :=
  space.rightEdges.map fun edges => ⟨edges.max?.getD 0, 0⟩

/-- An output is in the way of the rectangle. -/
def isTaken (targetGeom : Rectangle ℤ) : Bool :=
  space.any fun (output, loc) => (output.geometry loc).overlapsI32 targetGeom

end Space

/-- What is known of an output that is placed. -/
structure Data where
  output : Output
  config : Option (Point ℤ)
  deriving DecidableEq

/-- The outputs with their configured positions. -/
def Data.collect (config : NiriConfig.Outputs) (outputs : List Output) : List Data :=
  outputs.map fun output =>
    { output
      config := (config.find output.name).bind fun c => c.position.map fun (x, y) => ⟨x, y⟩ }

/-- An output that has no configured position, or one that is taken, goes to the right of the
others. -/
def placeOutput (space : Space) (data : Data) : Option Space :=
  let size := data.output.size.toI32Round
  let requested := data.config.filter fun pos => !space.isTaken ⟨pos, size⟩
  let newPosition :=
    match requested with
    | some pos => some pos
    | none => space.nextPosition
  newPosition.map fun pos => space.mapOutput data.output pos

/-- The outputs are placed one after the other. -/
def placeOutputs : Space → List Data → Option Space
  | space, [] => some space
  | space, data :: rest => (placeOutput space data).bind fun space => placeOutputs space rest

/-- Names are compared, and what is equal may be left in any order. -/
def compareNames (a b : Data) : Ordering := a.output.name.compare b.output.name

/-- Outputs with a configured position come first. -/
def compareConfig : Data → Data → Ordering := compareOn fun data => data.config.isNone

/-- `Niri`, as far as the placement goes. -/
structure Niri where
  globalSpace : Space
  sortedOutputs : List Output

/-- `reposition_outputs`, with what the unstable sort leaves of the outputs. -/
def Niri.repositionOutputs (niri : Niri) (sorted : List Data) : Option Niri :=
  let space := sorted.foldl (fun space data => space.unmapOutput data.output) niri.globalSpace
  let outputs := sortBy compareConfig sorted
  (placeOutputs space outputs).map fun globalSpace =>
    { globalSpace, sortedOutputs := outputs.map Data.output }

/-- The outputs that are placed, in the order in which the space and the new output give them. -/
def Niri.collect (niri : Niri) (config : NiriConfig.Outputs) (newOutput : Option Output) :
    List Data :=
  Data.collect config (niri.globalSpace.outputs ++ newOutput.toList)

end Tiri.Placement
