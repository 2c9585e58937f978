import Tiri.Config.Appearance
import Tiri.Lib.Fold

/-!
# Merging rules

`niri-config/src/appearance.rs`: a rule of a window or of a layer is merged into the rules before
it (lines 683–712), and what comes of it is merged into the border, the focus ring or the shadow
that is configured.

Results:
* `Border.mergeWith_merged`, `FocusRing.mergeWith_merged`: merging the rules first makes no
  difference;
* `Shadow.mergeWith_merged_iff`: for a shadow it makes none exactly when the last rule that turns
  it on or off does not do both.
-/

namespace Tiri.NiriConfig

open List

/-! ## Rules merged into rules -/

/-- `merge_on_off!`, of `off` and `on`. -/
def mergeOnOff (self part : Bool × Bool) : Bool × Bool :=
  let self := if part.1 then (true, false) else self
  if part.2 then (false, true) else self

/-- `merge_with` of `MergeWith<Self>`. -/
def BorderRule.mergeWith (self part : BorderRule) : BorderRule :=
  let onOff := mergeOnOff (self.off, self.on) (part.off, part.on)
  let active := mergeColorGradientOpt (self.activeColor, self.activeGradient)
    part.activeColor part.activeGradient
  let inactive := mergeColorGradientOpt (self.inactiveColor, self.inactiveGradient)
    part.inactiveColor part.inactiveGradient
  let urgent := mergeColorGradientOpt (self.urgentColor, self.urgentGradient)
    part.urgentColor part.urgentGradient
  { off := onOff.1
    on := onOff.2
    width := part.width.or self.width
    activeColor := active.1
    inactiveColor := inactive.1
    urgentColor := urgent.1
    activeGradient := active.2
    inactiveGradient := inactive.2
    urgentGradient := urgent.2 }

/-- `merge_with` of `MergeWith<Self>`. -/
def ShadowRule.mergeWith (self part : ShadowRule) : ShadowRule :=
  let onOff := mergeOnOff (self.off, self.on) (part.off, part.on)
  { off := onOff.1
    on := onOff.2
    offset := part.offset.or self.offset
    softness := part.softness.or self.softness
    spread := part.spread.or self.spread
    drawBehindWindow := part.drawBehindWindow.or self.drawBehindWindow
    color := part.color.or self.color
    inactiveColor := part.inactiveColor.or self.inactiveColor }

/-- The rules, each merged into those before it. -/
def BorderRule.merged (rules : List BorderRule) : BorderRule := rules.foldl mergeWith {}

variable (rules : List ShadowRule)

/-- The rules, each merged into those before it. -/
def ShadowRule.merged : ShadowRule := rules.foldl mergeWith {}

/-! ## Borders and focus rings -/

theorem getD_or {α : Type} (part self : Option α) (base : α) :
    (part.or self).getD base = part.getD (self.getD base) := by
  cases part <;> rfl

/-- A color and its gradient may be merged in either order. -/
theorem mergeColorGradient_mergeColorGradientOpt (base : Color × Option Gradient)
    (self : Option Color × Option Gradient) (color : Option Color) (gradient : Option Gradient) :
    mergeColorGradient base (mergeColorGradientOpt self color gradient).1
        (mergeColorGradientOpt self color gradient).2 =
      mergeColorGradient (mergeColorGradient base self.1 self.2) color gradient := by
  obtain ⟨selfColor, selfGradient⟩ := self
  cases color <;> cases gradient <;> cases selfColor <;> cases selfGradient <;> rfl

/-- For a border, turning on beats turning off in every merge. -/
theorem mergeOff_mergeOnOff (base : Bool) (self part : Bool × Bool) :
    mergeOff base (mergeOnOff self part).1 (mergeOnOff self part).2 =
      mergeOff (mergeOff base self.1 self.2) part.1 part.2 := by
  obtain ⟨selfOff, selfOn⟩ := self
  obtain ⟨off, on⟩ := part
  cases on <;> cases off <;> cases selfOn <;> cases selfOff <;> cases base <;> rfl

variable (base : Border)

theorem Border.mergeWith_empty : base.mergeWith {} = base := by
  simp [Border.mergeWith, mergeOff, mergeColorGradient]

theorem Border.mergeWith_mergeWith (self part : BorderRule) :
    base.mergeWith (self.mergeWith part) = (base.mergeWith self).mergeWith part := by
  unfold Border.mergeWith BorderRule.mergeWith
  simp only [mergeOff_mergeOnOff, getD_or, mergeColorGradient_mergeColorGradientOpt]

/-- **Rules for a border** may be merged first. -/
theorem Border.mergeWith_merged (rules : List BorderRule) :
    base.mergeWith (BorderRule.merged rules) = rules.foldl Border.mergeWith base :=
  Fold.foldl_merged (f := Border.mergeWith) (p := id) Border.mergeWith_empty Border.mergeWith_mergeWith
    (fun _ _ rule h => congrArg (Border.mergeWith · rule) h) base rules

variable (base : FocusRing)

theorem FocusRing.mergeWith_empty : base.mergeWith {} = base := by
  unfold FocusRing.mergeWith
  rw [Border.mergeWith_empty]
  rfl

theorem FocusRing.mergeWith_mergeWith (self part : BorderRule) :
    base.mergeWith (self.mergeWith part) = (base.mergeWith self).mergeWith part := by
  unfold FocusRing.mergeWith
  rw [Border.mergeWith_mergeWith]
  rfl

/-- **Rules for a focus ring** may be merged first. -/
theorem FocusRing.mergeWith_merged (rules : List BorderRule) :
    base.mergeWith (BorderRule.merged rules) = rules.foldl FocusRing.mergeWith base :=
  Fold.foldl_merged (f := FocusRing.mergeWith) (p := id) FocusRing.mergeWith_empty FocusRing.mergeWith_mergeWith
    (fun _ _ rule h => congrArg (FocusRing.mergeWith · rule) h) base rules

/-! ## Shadows -/

namespace Shadow

/-- A shadow but for whether it is on. -/
def look (shadow : Shadow) : Shadow := { shadow with on := false }

theorem eq_iff {a b : Shadow} : a = b ↔ a.on = b.on ∧ a.look = b.look := by
  obtain ⟨aOn, _⟩ := a
  obtain ⟨bOn, _⟩ := b
  simp [look]

/-- How the shadow looks does not depend on how rules turn it on and off. -/
theorem look_merged (base : Shadow) (rules : List ShadowRule) :
    (base.mergeWith (ShadowRule.merged rules)).look = (rules.foldl Shadow.mergeWith base).look := by
  refine Fold.foldl_merged (p := look) ?_ ?_ ?_ base rules
  · simp [look, Shadow.mergeWith]
  · intro base self part
    simp only [look, Shadow.mergeWith, ShadowRule.mergeWith, getD_or, Option.or_assoc]
  · intro a b rule h
    simp only [look, Shadow.mk.injEq, true_and] at h
    obtain ⟨hoffset, hsoftness, hspread, hbehind, hcolor, hinactive⟩ := h
    simp only [look, Shadow.mergeWith, hoffset, hsoftness, hspread, hbehind, hcolor, hinactive]

end Shadow

/-- The rule turns something on or off. -/
def ShadowRule.setsOn (rule : ShadowRule) : Bool := rule.off || rule.on

/-- The last of the rules that turns the shadow on or off. -/
def ShadowRule.lastSetting : Option ShadowRule :=
  (rules.filter ShadowRule.setsOn).getLast?

namespace ShadowRule

theorem lastSetting_concat (rule : ShadowRule) :
    lastSetting (rules ++ [rule]) = if rule.setsOn then some rule else lastSetting rules := by
  unfold lastSetting
  split_ifs with h <;> simp [h]

/-- Merged rules turn on and off what the last rule that does either turns on, or else off. -/
theorem merged_onOff :
    ((merged rules).off, (merged rules).on) = match lastSetting rules with
      | some rule => (!rule.on, rule.on)
      | none => (false, false) := by
  induction rules using List.reverseRecOn with
  | nil => rfl
  | append_singleton rules rule ih =>
    rw [merged, foldl_concat, lastSetting_concat]
    change mergeOnOff ((merged rules).off, (merged rules).on) (rule.off, rule.on) = _
    rw [ih, setsOn, mergeOnOff]
    cases hon : rule.on <;> cases rule.off <;> simp [hon]

/-- Rules merged one by one turn the shadow off if the last rule that does either turns it off. -/
theorem foldl_on (base : Shadow) (rules : List ShadowRule) :
    (rules.foldl Shadow.mergeWith base).on = match lastSetting rules with
      | some rule => !rule.off
      | none => base.on := by
  induction rules using List.reverseRecOn with
  | nil => rfl
  | append_singleton rules rule ih =>
    rw [foldl_concat, lastSetting_concat, Shadow.mergeWith, ih, setsOn]
    cases rule.on <;> cases hoff : rule.off <;> simp [hoff]

end ShadowRule

/-- **Rules for a shadow** may be merged first exactly when the last one that turns it on or off
does not do both. -/
theorem Shadow.mergeWith_merged_iff (base : Shadow) (rules : List ShadowRule) :
    base.mergeWith (ShadowRule.merged rules) = rules.foldl Shadow.mergeWith base ↔
      ∀ rule ∈ ShadowRule.lastSetting rules, ¬(rule.off = true ∧ rule.on = true) := by
  rw [Shadow.eq_iff, and_iff_left (look_merged base rules), ShadowRule.foldl_on]
  have hmerged := ShadowRule.merged_onOff rules
  obtain ⟨hoff, hon⟩ := Prod.mk.inj hmerged
  change (if (ShadowRule.merged rules).off then false else base.on || (ShadowRule.merged rules).on) =
    _ ↔ _
  rw [hoff, hon]
  cases hlast : ShadowRule.lastSetting rules with
  | none => simp
  | some rule =>
    have hsets : rule.setsOn = true := by
      have hmem := mem_of_getLast? hlast
      exact (mem_filter.mp hmem).2
    unfold ShadowRule.setsOn at hsets
    cases hruleOn : rule.on <;> cases hruleOff : rule.off <;> simp_all

/-- **Rules may be merged first.**  For a border and a focus ring merging the rules together, and
what comes of them into the base, is merging each into the base; for a shadow it is exactly when
the last rule that turns it on or off does not do both. -/
theorem merging_rules_first (border : Border) (ring : FocusRing) (rules : List BorderRule)
    (shadow : Shadow) (shadowRules : List ShadowRule) :
    border.mergeWith (BorderRule.merged rules) = rules.foldl Border.mergeWith border ∧
    ring.mergeWith (BorderRule.merged rules) = rules.foldl FocusRing.mergeWith ring ∧
    (shadow.mergeWith (ShadowRule.merged shadowRules) = shadowRules.foldl Shadow.mergeWith shadow ↔
      ∀ rule ∈ ShadowRule.lastSetting shadowRules, ¬(rule.off = true ∧ rule.on = true)) :=
  ⟨Border.mergeWith_merged .., FocusRing.mergeWith_merged .., Shadow.mergeWith_merged_iff ..⟩

/-- A rule with both `off` and `on` turns a shadow on when it is merged into the empty rule first,
and off when it is merged into the shadow; a border it turns on either way. -/
theorem offOn_differs :
    let rule : ShadowRule := { off := true, on := true }
    (Shadow.default.mergeWith (ShadowRule.merged [rule])).on = true ∧
      ([rule].foldl Shadow.mergeWith Shadow.default).on = false ∧
      Shadow.default.mergeWith (ShadowRule.merged [rule]) ≠
        [rule].foldl Shadow.mergeWith Shadow.default ∧
      (Border.default.mergeWith { off := true, on := true }).off = false := by
  decide

end Tiri.NiriConfig
