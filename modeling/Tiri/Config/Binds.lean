import Mathlib.Data.Int.Notation
import Mathlib.Data.Nat.Notation

/-!
# Key bindings

`niri-config/src/binds.rs`, with what the MRU binds of `recent_windows.rs` name.
-/

namespace Tiri.NiriConfig

/-- `bitflags! struct Modifiers : u8`. -/
abbrev Modifiers := UInt8

namespace Modifiers

def ctrl : Modifiers := 1
def shift : Modifiers := 2
def alt : Modifiers := 4
def super : Modifiers := 8
def isoLevel3Shift : Modifiers := 16
def isoLevel5Shift : Modifiers := 32
def compositor : Modifiers := 64

def contains (self other : Modifiers) : Bool := self &&& other == other

end Modifiers

inductive Trigger
  | keysym (keysym : ℕ)
  | mouseLeft
  | mouseRight
  | mouseMiddle
  | mouseBack
  | mouseForward
  | wheelScrollDown
  | wheelScrollUp
  | wheelScrollLeft
  | wheelScrollRight
  | touchpadScrollDown
  | touchpadScrollUp
  | touchpadScrollLeft
  | touchpadScrollRight
  deriving DecidableEq

inductive MruDirection
  | forward
  | backward
  deriving DecidableEq

inductive MruScope
  | all
  | output
  | workspace
  deriving DecidableEq

inductive MruFilter
  | all
  | appId
  deriving DecidableEq

/-- `Action`: the actions that are named here, and the others of the configuration. -/
inductive Action
  | changeVt (vt : ℤ)
  | suspend
  | mruAdvance (direction : MruDirection) (scope : Option MruScope) (filter : Option MruFilter)
  | mruConfirm
  | toggleOverview
  | focusColumnLeft
  | focusColumnRight
  | focusWindowOrWorkspaceUp
  | focusWindowOrWorkspaceDown
  | cancelScreenshot
  | confirmScreenshot (writeToDisk : Bool)
  | screenshotTogglePointer
  /-- Another action, which `allowed_during_screenshot` lists or not. -/
  | other (id : ℕ) (duringScreenshot : Bool)
  deriving DecidableEq

structure Key where
  trigger : Trigger
  modifiers : Modifiers
  deriving DecidableEq

structure Bind where
  key : Key
  action : Action
  repeats : Bool
  cooldown : Option ℕ
  allowWhenLocked : Bool
  allowInhibiting : Bool
  hotkeyOverlayTitle : Option (Option String)
  deriving DecidableEq

/-- A hardcoded bind. -/
def Bind.hardcoded (keysym : ℕ) (action : Action) (repeats : Bool) : Bind where
  key := { trigger := .keysym keysym, modifiers := 0 }
  action
  repeats
  cooldown := none
  allowWhenLocked := false
  allowInhibiting := false
  hotkeyOverlayTitle := none

/-- The action switches the VT or suspends, and clears the suppressed keys. -/
def Action.clearsSuppressedKeys : Action → Bool
  | .changeVt _ => true
  | .suspend => true
  | _ => false

end Tiri.NiriConfig
