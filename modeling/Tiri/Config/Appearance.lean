import Tiri.Layout.Basic

/-!
# How borders, shadows and hints look

`niri-config/src/appearance.rs`: the parts of the `layout` section, and how each is merged into what
was configured before it.
-/

namespace Tiri.NiriConfig

open Layout (TabIndicatorPosition)

structure Color where
  r : ℚ
  g : ℚ
  b : ℚ
  a : ℚ
  deriving DecidableEq

def Color.fromRgba8Unpremul (r g b a : ℕ) : Color := ⟨r / 255, g / 255, b / 255, a / 255⟩

inductive GradientRelativeTo
  | window
  | workspaceView
  deriving DecidableEq

inductive GradientColorSpace
  | srgb
  | srgbLinear
  | oklab
  | oklch
  deriving DecidableEq

inductive HueInterpolation
  | shorter
  | longer
  | increasing
  | decreasing
  deriving DecidableEq

structure Gradient where
  fromColor : Color
  toColor : Color
  angle : ℤ
  relativeTo : GradientRelativeTo
  colorSpace : GradientColorSpace
  hueInterpolation : HueInterpolation
  deriving DecidableEq

/-- `merge_color_gradient!`. -/
def mergeColorGradient (self : Color × Option Gradient) (color : Option Color)
    (gradient : Option Gradient) : Color × Option Gradient :=
  let self :=
    match color with
    | some x => (x, none)
    | none => self
  match gradient with
  | some x => (self.1, some x)
  | none => self

/-- `merge_color_gradient_opt!`. -/
def mergeColorGradientOpt (self : Option Color × Option Gradient) (color : Option Color)
    (gradient : Option Gradient) : Option Color × Option Gradient :=
  let self :=
    match color with
    | some x => (some x, none)
    | none => self
  match gradient with
  | some x => (self.1, some x)
  | none => self

/-- A part that turns something off, or else on. -/
def mergeOff (self off on : Bool) : Bool := if on then false else self || off

structure BorderRule where
  off : Bool := false
  on : Bool := false
  width : Option ℚ := none
  activeColor : Option Color := none
  inactiveColor : Option Color := none
  urgentColor : Option Color := none
  activeGradient : Option Gradient := none
  inactiveGradient : Option Gradient := none
  urgentGradient : Option Gradient := none
  deriving DecidableEq

/-- `Border`, each color with its gradient. -/
structure Border where
  off : Bool
  width : ℚ
  active : Color × Option Gradient
  inactive : Color × Option Gradient
  urgent : Color × Option Gradient
  deriving DecidableEq

structure FocusRing where
  off : Bool
  width : ℚ
  active : Color × Option Gradient
  inactive : Color × Option Gradient
  urgent : Color × Option Gradient

/-- `impl Default for Border`. -/
def Border.default : Border where
  off := true
  width := 4
  active := (.fromRgba8Unpremul 255 200 127 255, none)
  inactive := (.fromRgba8Unpremul 80 80 80 255, none)
  urgent := (.fromRgba8Unpremul 155 0 0 255, none)

/-- `impl Default for FocusRing`. -/
def FocusRing.default : FocusRing where
  off := false
  width := 4
  active := (.fromRgba8Unpremul 127 200 255 255, none)
  inactive := (.fromRgba8Unpremul 80 80 80 255, none)
  urgent := (.fromRgba8Unpremul 155 0 0 255, none)

/-- `impl From<Border> for FocusRing`. -/
def FocusRing.ofBorder (value : Border) : FocusRing :=
  ⟨value.off, value.width, value.active, value.inactive, value.urgent⟩

/-- `impl From<FocusRing> for Border`. -/
def Border.ofFocusRing (value : FocusRing) : Border :=
  ⟨value.off, value.width, value.active, value.inactive, value.urgent⟩

def Border.mergeWith (self : Border) (part : BorderRule) : Border where
  off := mergeOff self.off part.off part.on
  width := part.width.getD self.width
  active := mergeColorGradient self.active part.activeColor part.activeGradient
  inactive := mergeColorGradient self.inactive part.inactiveColor part.inactiveGradient
  urgent := mergeColorGradient self.urgent part.urgentColor part.urgentGradient

def FocusRing.mergeWith (self : FocusRing) (part : BorderRule) : FocusRing :=
  .ofBorder ((Border.ofFocusRing self).mergeWith part)

structure ShadowOffset where
  x : ℚ
  y : ℚ
  deriving DecidableEq

structure ShadowRule where
  off : Bool := false
  on : Bool := false
  offset : Option ShadowOffset := none
  softness : Option ℚ := none
  spread : Option ℚ := none
  drawBehindWindow : Option Bool := none
  color : Option Color := none
  inactiveColor : Option Color := none
  deriving DecidableEq

structure Shadow where
  on : Bool
  offset : ShadowOffset
  softness : ℚ
  spread : ℚ
  drawBehindWindow : Bool
  color : Color
  inactiveColor : Option Color
  deriving DecidableEq

/-- `impl Default for Shadow`. -/
def Shadow.default : Shadow where
  on := false
  offset := ⟨0, 5⟩
  softness := 30
  spread := 5
  drawBehindWindow := false
  color := .fromRgba8Unpremul 0 0 0 0x77
  inactiveColor := none

def Shadow.mergeWith (self : Shadow) (part : ShadowRule) : Shadow where
  on := if part.off then false else self.on || part.on
  offset := part.offset.getD self.offset
  softness := part.softness.getD self.softness
  spread := part.spread.getD self.spread
  drawBehindWindow := part.drawBehindWindow.getD self.drawBehindWindow
  color := part.color.getD self.color
  inactiveColor := part.inactiveColor.or self.inactiveColor

/-- `TabIndicatorPart`, with the proportion of a length. -/
structure TabIndicatorPart where
  off : Bool := false
  on : Bool := false
  hideWhenSingleTab : Option Bool := none
  placeWithinColumn : Option Bool := none
  gap : Option ℚ := none
  width : Option ℚ := none
  length : Option (Option ℚ) := none
  position : Option TabIndicatorPosition := none
  gapsBetweenTabs : Option ℚ := none
  cornerRadius : Option ℚ := none
  activeColor : Option Color := none
  inactiveColor : Option Color := none
  urgentColor : Option Color := none
  activeGradient : Option Gradient := none
  inactiveGradient : Option Gradient := none
  urgentGradient : Option Gradient := none
  deriving DecidableEq

/-- `TabIndicator`, each color with its gradient. -/
structure TabIndicator where
  off : Bool
  hideWhenSingleTab : Bool
  placeWithinColumn : Bool
  gap : ℚ
  width : ℚ
  length : Option ℚ
  position : TabIndicatorPosition
  gapsBetweenTabs : ℚ
  cornerRadius : ℚ
  active : Option Color × Option Gradient
  inactive : Option Color × Option Gradient
  urgent : Option Color × Option Gradient
  deriving DecidableEq

/-- `impl Default for TabIndicator`. -/
def TabIndicator.default : TabIndicator where
  off := false
  hideWhenSingleTab := false
  placeWithinColumn := false
  gap := 5
  width := 4
  length := some (1 / 2)
  position := .left
  gapsBetweenTabs := 0
  cornerRadius := 0
  active := (none, none)
  inactive := (none, none)
  urgent := (none, none)

def TabIndicator.mergeWith (self : TabIndicator) (part : TabIndicatorPart) : TabIndicator where
  off := mergeOff self.off part.off part.on
  hideWhenSingleTab := part.hideWhenSingleTab.getD self.hideWhenSingleTab
  placeWithinColumn := part.placeWithinColumn.getD self.placeWithinColumn
  gap := part.gap.getD self.gap
  width := part.width.getD self.width
  length := part.length.getD self.length
  position := part.position.getD self.position
  gapsBetweenTabs := part.gapsBetweenTabs.getD self.gapsBetweenTabs
  cornerRadius := part.cornerRadius.getD self.cornerRadius
  active := mergeColorGradientOpt self.active part.activeColor part.activeGradient
  inactive := mergeColorGradientOpt self.inactive part.inactiveColor part.inactiveGradient
  urgent := mergeColorGradientOpt self.urgent part.urgentColor part.urgentGradient

structure InsertHintPart where
  off : Bool := false
  on : Bool := false
  color : Option Color := none
  gradient : Option Gradient := none
  deriving DecidableEq

/-- `InsertHint`, its color with its gradient. -/
structure InsertHint where
  off : Bool
  color : Color × Option Gradient

/-- `impl Default for InsertHint`. -/
def InsertHint.default : InsertHint := ⟨false, .fromRgba8Unpremul 127 200 255 128, none⟩

def InsertHint.mergeWith (self : InsertHint) (part : InsertHintPart) : InsertHint where
  off := mergeOff self.off part.off part.on
  color := mergeColorGradient self.color part.color part.gradient

end Tiri.NiriConfig
