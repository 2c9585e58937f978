import Tiri.Config.LayoutPart

/-!
# The options of the layout

The layout section of the configuration, as a monitor and a workspace lay their own over it.
-/

namespace Tiri

open Layout (Size roundLogicalInPhysical roundLogicalInPhysicalMax1)

namespace NiriConfig

/-- `TabIndicator::extra_size` (`tab_indicator.rs`, lines 311–331). -/
def TabIndicator.extraSize (config : TabIndicator) (tabCount : ℕ) (scale : ℚ) : Size :=
  if config.off || !config.placeWithinColumn || (config.hideWhenSingleTab && tabCount == 1) then
    ⟨0, 0⟩
  else
    let round := roundLogicalInPhysical scale
    let size := max 0 (round config.width + round config.gap)
    match config.position with
    | .left | .right => ⟨size, 0⟩
    | .top | .bottom => ⟨0, size⟩

end NiriConfig

namespace Layout

abbrev Options := NiriConfig.Layout

abbrev LayoutPart := NiriConfig.LayoutPart

/-- `impl Default for niri_config::Layout`. -/
def Options.default : Options := NiriConfig.Layout.default

/-- `Options::with_merged_layout` (`layout/mod.rs`, lines 666–671). -/
def Options.withMergedLayout (self : Options) : Option LayoutPart → Options
  | none => self
  | some part => self.mergeWith part

/-- `Options::adjusted_for_scale` (`layout/mod.rs`, lines 673–676). -/
def Options.adjustedForScale (self : Options) (scale : ℚ) : Options :=
  { self with gaps := roundLogicalInPhysicalMax1 scale self.gaps }

end Layout

end Tiri
