import Mathlib.Data.Rat.Floor

/-!
# The vocabulary of the layout

Geometry, sizing modes, column widths and window heights.  A logical length is an exact rational
where the code has an `f64`; sizes the clients speak are integers, as in the code.
-/

namespace Tiri.Layout

/-! ## Geometry -/

/-- A logical size. -/
structure Size where
  w : ℚ
  h : ℚ
  deriving DecidableEq

/-- A size in whole logical pixels, as the windows report and receive it. -/
structure ISize where
  w : ℤ
  h : ℤ
  deriving DecidableEq

structure Rectangle where
  x : ℚ
  y : ℚ
  size : Size
  deriving DecidableEq

/-- `f64::round`: to the nearest integer, halves away from zero. -/
def roundHalfAway (x : ℚ) : ℤ :=
  if 0 ≤ x then ⌊x + 1 / 2⌋ else -⌊-x + 1 / 2⌋

/-- `round_logical_in_physical` (`utils/mod.rs`, lines 180–182). -/
def roundLogicalInPhysical (scale logical : ℚ) : ℚ :=
  roundHalfAway (logical * scale) / scale

/-- `round_logical_in_physical_max1` (`utils/mod.rs`, lines 184–190). -/
def roundLogicalInPhysicalMax1 (scale logical : ℚ) : ℚ :=
  if logical = 0 then 0 else roundHalfAway (max (logical * scale) 1) / scale

/-- `f64::clamp`. -/
def clamp (x lo hi : ℚ) : ℚ := max lo (min x hi)

/-! ## Sizing modes and column displays -/

inductive SizingMode
  | normal
  | maximized
  | fullscreen
  deriving DecidableEq

inductive ColumnDisplay
  | normal
  | tabbed
  deriving DecidableEq

inductive CenterFocusedColumn
  | never
  | always
  | onOverflow
  deriving DecidableEq

inductive ScrollDirection
  | left
  | right
  deriving DecidableEq

/-- The index next to `idx`, in the given direction. -/
def ScrollDirection.neighbour : ScrollDirection → ℕ → ℕ
  | .left, idx => idx - 1
  | .right, idx => idx + 1

/-! ## Widths and heights -/

inductive PresetSize
  | proportion (p : ℚ)
  | fixed (f : ℤ)
  deriving DecidableEq

inductive SizeChange
  | setFixed (fixed : ℤ)
  | setProportion (proportion : ℚ)
  | adjustFixed (delta : ℤ)
  | adjustProportion (delta : ℚ)

/-- `impl From<PresetSize> for SizeChange` (`niri-config/src/layout.rs`). -/
def SizeChange.ofPreset : PresetSize → SizeChange
  | .proportion p => .setProportion (p * 100)
  | .fixed f => .setFixed f

inductive ColumnWidth
  | proportion (p : ℚ)
  | fixed (w : ℚ)
  deriving DecidableEq

/-- `impl From<PresetSize> for ColumnWidth` (`scrolling.rs`). -/
def ColumnWidth.ofPreset : PresetSize → ColumnWidth
  | .proportion p => .proportion (clamp p 0 10000)
  | .fixed f => .fixed (max 1 (min f 100000) : ℤ)

inductive WindowHeight
  | auto (weight : ℚ)
  | fixed (h : ℚ)
  | preset (idx : ℕ)
  deriving DecidableEq

namespace WindowHeight

def auto1 : WindowHeight := .auto 1

def isAuto : WindowHeight → Bool
  | .auto _ => true
  | _ => false

end WindowHeight

/-- A preset resolved against an area: the size of the tile, or of the window in it. -/
inductive ResolvedSize
  | tile (size : ℚ)
  | window (size : ℚ)

/-! ## Configuration -/

inductive TabIndicatorPosition
  | left
  | right
  | top
  | bottom
  deriving DecidableEq

structure Struts where
  left : ℚ
  right : ℚ
  top : ℚ
  bottom : ℚ
  deriving DecidableEq

/-- `compute_working_area` (`scrolling.rs`): the parent area less the struts, its corner moved
to the next physical pixel. -/
def computeWorkingArea (parentArea : Rectangle) (scale : ℚ) (struts : Struts) : Rectangle :=
  let w := max 0 (parentArea.size.w - struts.left - struts.right)
  let x := parentArea.x + struts.left
  let h := max 0 (parentArea.size.h - struts.top - struts.bottom)
  let y := parentArea.y + struts.top
  let x' : ℚ := ⌈x * scale⌉ / scale
  let y' : ℚ := ⌈y * scale⌉ / scale
  ⟨x', y', ⟨w - min w (x' - x), h - min h (y' - y)⟩⟩

end Tiri.Layout
