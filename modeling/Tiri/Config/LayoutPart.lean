import Tiri.Config.Appearance

/-!
# The `layout` section

`niri-config/src/layout.rs`: a part of the section is merged into the layout that was configured
before it.  A list of presets is never empty.
-/

namespace Tiri.NiriConfig

open Tiri.Layout (CenterFocusedColumn ColumnDisplay PresetSize Struts)

structure LayoutPart where
  focusRing : Option BorderRule := none
  border : Option BorderRule := none
  shadow : Option ShadowRule := none
  tabIndicator : Option TabIndicatorPart := none
  insertHint : Option InsertHintPart := none
  presetColumnWidths : Option (List PresetSize) := none
  /-- A `DefaultPresetSize`. -/
  defaultColumnWidth : Option (Option PresetSize) := none
  presetWindowHeights : Option (List PresetSize) := none
  centerFocusedColumn : Option CenterFocusedColumn := none
  alwaysCenterSingleColumn : Option Bool := none
  emptyWorkspaceAboveFirst : Option Bool := none
  defaultColumnDisplay : Option ColumnDisplay := none
  gaps : Option ℚ := none
  struts : Option Struts := none
  backgroundColor : Option Color := none
  deriving DecidableEq

structure Layout where
  focusRing : FocusRing
  border : Border
  shadow : Shadow
  tabIndicator : TabIndicator
  insertHint : InsertHint
  presetColumnWidths : List PresetSize
  defaultColumnWidth : Option PresetSize
  presetWindowHeights : List PresetSize
  centerFocusedColumn : CenterFocusedColumn
  alwaysCenterSingleColumn : Bool
  emptyWorkspaceAboveFirst : Bool
  defaultColumnDisplay : ColumnDisplay
  gaps : ℚ
  struts : Struts
  backgroundColor : Color
  presetColumnWidths_ne : presetColumnWidths ≠ []
  presetWindowHeights_ne : presetWindowHeights ≠ []

namespace Layout

/-- The presets of `Layout::default()`, for widths and for heights. -/
def defaultPresets : List PresetSize :=
  [.proportion (1 / 3), .proportion (1 / 2), .proportion (2 / 3)]

/-- `impl Default for Layout`. -/
def default : Layout where
  focusRing := .default
  border := .default
  shadow := .default
  tabIndicator := .default
  insertHint := .default
  presetColumnWidths := defaultPresets
  defaultColumnWidth := some (.proportion (1 / 2))
  presetWindowHeights := defaultPresets
  centerFocusedColumn := .never
  alwaysCenterSingleColumn := false
  emptyWorkspaceAboveFirst := false
  defaultColumnDisplay := .normal
  gaps := 16
  struts := ⟨0, 0, 0, 0⟩
  backgroundColor := ⟨1 / 4, 1 / 4, 1 / 4, 1⟩
  presetColumnWidths_ne := by decide
  presetWindowHeights_ne := by decide

/-- Presets after a merge, which are the default ones if there are none. -/
def mergePresets (self : List PresetSize) (part : Option (List PresetSize)) : List PresetSize :=
  let presets := part.getD self
  if presets.isEmpty then defaultPresets else presets

theorem mergePresets_ne (self : List PresetSize) (part : Option (List PresetSize)) :
    mergePresets self part ≠ [] := by
  unfold mergePresets
  dsimp only
  split
  · decide
  · rename_i hne
    rwa [List.isEmpty_iff] at hne

def mergeWith (self : Layout) (part : LayoutPart) : Layout where
  focusRing := part.focusRing.elim self.focusRing self.focusRing.mergeWith
  border := part.border.elim self.border self.border.mergeWith
  shadow := part.shadow.elim self.shadow self.shadow.mergeWith
  tabIndicator := part.tabIndicator.elim self.tabIndicator self.tabIndicator.mergeWith
  insertHint := part.insertHint.elim self.insertHint self.insertHint.mergeWith
  presetColumnWidths := mergePresets self.presetColumnWidths part.presetColumnWidths
  defaultColumnWidth := part.defaultColumnWidth.getD self.defaultColumnWidth
  presetWindowHeights := mergePresets self.presetWindowHeights part.presetWindowHeights
  centerFocusedColumn := part.centerFocusedColumn.getD self.centerFocusedColumn
  alwaysCenterSingleColumn := part.alwaysCenterSingleColumn.getD self.alwaysCenterSingleColumn
  emptyWorkspaceAboveFirst := part.emptyWorkspaceAboveFirst.getD self.emptyWorkspaceAboveFirst
  defaultColumnDisplay := part.defaultColumnDisplay.getD self.defaultColumnDisplay
  gaps := part.gaps.getD self.gaps
  struts := part.struts.getD self.struts
  backgroundColor := part.backgroundColor.getD self.backgroundColor
  presetColumnWidths_ne := mergePresets_ne _ _
  presetWindowHeights_ne := mergePresets_ne _ _

end Layout

/-- A border that says neither is turned on. -/
def LayoutPart.borderOn (part : LayoutPart) : LayoutPart :=
  { part with border := part.border.map fun border =>
      if !border.on && !border.off then { border with on := true } else border }

end Tiri.NiriConfig
