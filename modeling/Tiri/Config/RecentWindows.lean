import Tiri.Config.Appearance
import Tiri.Config.Binds

/-!
# The `recent-windows` section

`niri-config/src/recent_windows.rs`.  New binds replace the ones with
their keys.
-/

namespace Tiri.NiriConfig

/-- New binds replace the ones with their keys. -/
def mergeBinds (binds new : List Bind) : List Bind :=
  (binds.filter fun bind => !new.any fun x => decide (x.key = bind.key)) ++ new

inductive MruAction
  | nextWindow (scope : Option MruScope) (filter : MruFilter)
  | previousWindow (scope : Option MruScope) (filter : MruFilter)

/-- `impl From<MruAction> for Action`. -/
def Action.ofMruAction : MruAction → Action
  | .nextWindow scope filter => .mruAdvance .forward scope (some filter)
  | .previousWindow scope filter => .mruAdvance .backward scope (some filter)

structure MruBind where
  key : Key
  action : MruAction
  allowInhibiting : Bool
  hotkeyOverlayTitle : Option (Option String)

/-- `impl From<MruBind> for Bind`. -/
def Bind.ofMruBind (x : MruBind) : Bind where
  key := x.key
  action := .ofMruAction x.action
  repeats := true
  cooldown := none
  allowWhenLocked := false
  allowInhibiting := x.allowInhibiting
  hotkeyOverlayTitle := x.hotkeyOverlayTitle

structure MruHighlight where
  activeColor : Color
  urgentColor : Color
  padding : ℚ
  cornerRadius : ℚ

structure MruHighlightPart where
  activeColor : Option Color := none
  urgentColor : Option Color := none
  padding : Option ℚ := none
  cornerRadius : Option ℚ := none

def MruHighlight.mergeWith (self : MruHighlight) (part : MruHighlightPart) : MruHighlight where
  activeColor := part.activeColor.getD self.activeColor
  urgentColor := part.urgentColor.getD self.urgentColor
  padding := part.padding.getD self.padding
  cornerRadius := part.cornerRadius.getD self.cornerRadius

structure MruPreviews where
  maxHeight : ℚ
  maxScale : ℚ

structure MruPreviewsPart where
  maxHeight : Option ℚ := none
  maxScale : Option ℚ := none

def MruPreviews.mergeWith (self : MruPreviews) (part : MruPreviewsPart) : MruPreviews where
  maxHeight := part.maxHeight.getD self.maxHeight
  maxScale := part.maxScale.getD self.maxScale

structure RecentWindows where
  on : Bool
  debounceMs : ℕ
  openDelayMs : ℕ
  highlight : MruHighlight
  previews : MruPreviews
  binds : List Bind

structure RecentWindowsPart where
  on : Bool := false
  off : Bool := false
  debounceMs : Option ℕ := none
  openDelayMs : Option ℕ := none
  highlight : Option MruHighlightPart := none
  previews : Option MruPreviewsPart := none
  binds : Option (List MruBind) := none

namespace RecentWindows

/-- The two binds of a key, forward and with `SHIFT` backward. -/
def defaultBindPair (keysym : ℕ) (baseMod : Modifiers) (filter : MruFilter) : List Bind :=
  [.ofMruBind ⟨⟨.keysym keysym, baseMod⟩, .nextWindow none filter, true, none⟩,
    .ofMruBind ⟨⟨.keysym keysym, baseMod ||| Modifiers.shift⟩, .previousWindow none filter, true, none⟩]

/-- `default_binds`: `Tab` and `grave`, with `ALT` and with `COMPOSITOR`. -/
def defaultBinds : List Bind :=
  [Modifiers.alt, Modifiers.compositor].flatMap fun baseMod =>
    defaultBindPair 0xff09 baseMod .all ++ defaultBindPair 0x60 baseMod .appId

/-- `impl Default for RecentWindows`. -/
def default : RecentWindows where
  on := true
  debounceMs := 750
  openDelayMs := 150
  highlight := ⟨⟨3 / 5, 3 / 5, 3 / 5, 1⟩, ⟨1, 3 / 5, 3 / 5, 1⟩, 30, 0⟩
  previews := ⟨480, 1 / 2⟩
  binds := defaultBinds

def mergeWith (self : RecentWindows) (part : RecentWindowsPart) : RecentWindows where
  on := if part.off then false else self.on || part.on
  debounceMs := part.debounceMs.getD self.debounceMs
  openDelayMs := part.openDelayMs.getD self.openDelayMs
  highlight := part.highlight.elim self.highlight self.highlight.mergeWith
  previews := part.previews.elim self.previews self.previews.mergeWith
  binds :=
    match part.binds with
    | some new => mergeBinds self.binds (new.map .ofMruBind)
    | none => self.binds

end RecentWindows

end Tiri.NiriConfig
