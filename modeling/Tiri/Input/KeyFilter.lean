import Tiri.Config.Binds
import Tiri.Dbus.KeyboardMonitor

/-!
# The key filter

`src/input/mod.rs`: `on_keyboard` and `should_intercept_key` decide which key events reach the
focused client.  The keys whose press was intercepted are remembered in `suppressed_keys`, so
that their releases are intercepted too.

Results:
* `filter_press`, `filter_release`: what the filter records, and what it reads back;
* `keys_paired`: a release is forwarded exactly when the press of its key was, and
  `suppressed_keys` holds exactly the keys that are down and whose press was intercepted.
-/

namespace Tiri.Input

open Tiri.Run Tiri.Dbus Option Function Finset
open NiriConfig (Modifiers Trigger Key Action Bind)

/-! ## Keys and modifiers -/

namespace Keysym

def escape : Keysym := 0xff1b
def return_ : Keysym := 0xff0d
def left : Keysym := 0xff51
def up : Keysym := 0xff52
def right : Keysym := 0xff53
def down : Keysym := 0xff54
def space : Keysym := 0x20
def c : Keysym := 0x63
def p : Keysym := 0x70
def xf86SwitchVt1 : Keysym := 0x1008fe01
def xf86SwitchVt12 : Keysym := 0x1008fe0c
def xf86PowerOff : Keysym := 0x1008ff2a

/-- `Shift_L`, `Shift_R`, `Control_L`, `Control_R`, `Alt_L`, `Alt_R`, `Super_L`, `Super_R`. -/
def forwardedModifiers : List Keysym :=
  [0xffe1, 0xffe2, 0xffe3, 0xffe4, 0xffe9, 0xffea, 0xffeb, 0xffec]

end Keysym

/-- The modifiers of the XKB state. -/
structure ModifiersState where
  ctrl : Bool
  alt : Bool
  shift : Bool
  logo : Bool
  isoLevel3Shift : Bool
  isoLevel5Shift : Bool

def modifiersFromState (mods : ModifiersState) : Modifiers :=
  (if mods.ctrl then Modifiers.ctrl else 0) ||| (if mods.shift then Modifiers.shift else 0) |||
    (if mods.alt then Modifiers.alt else 0) ||| (if mods.logo then Modifiers.super else 0) |||
    (if mods.isoLevel3Shift then Modifiers.isoLevel3Shift else 0) |||
    (if mods.isoLevel5Shift then Modifiers.isoLevel5Shift else 0)

inductive ModKey
  | ctrl | shift | alt | super | isoLevel3Shift | isoLevel5Shift

/-- `ModKey::to_modifiers`. -/
def ModKey.toModifiers : ModKey → Modifiers
  | .ctrl => Modifiers.ctrl
  | .shift => Modifiers.shift
  | .alt => Modifiers.alt
  | .super => Modifiers.super
  | .isoLevel3Shift => Modifiers.isoLevel3Shift
  | .isoLevel5Shift => Modifiers.isoLevel5Shift

/-! ## Binds -/

def allowedDuringScreenshot : Action → Bool
  | .changeVt _ => true
  | .suspend => true
  | .other _ duringScreenshot => duringScreenshot
  | _ => false

def hardcodedOverviewBind (raw : Keysym) (mods : ModifiersState) : Option Bind :=
  if modifiersFromState mods ≠ 0 then none
  else if raw = Keysym.escape ∨ raw = Keysym.return_ then
    some (.hardcoded raw .toggleOverview false)
  else if raw = Keysym.left then some (.hardcoded raw .focusColumnLeft true)
  else if raw = Keysym.right then some (.hardcoded raw .focusColumnRight true)
  else if raw = Keysym.up then some (.hardcoded raw .focusWindowOrWorkspaceUp true)
  else if raw = Keysym.down then some (.hardcoded raw .focusWindowOrWorkspaceDown true)
  else none

def findConfiguredBind (bindings : List Bind) (modKey : ModKey) (trigger : Trigger)
    (mods : ModifiersState) : Option Bind :=
  let modifiers :=
    if Modifiers.contains (modifiersFromState mods) modKey.toModifiers then
      modifiersFromState mods ||| Modifiers.compositor
    else modifiersFromState mods
  bindings.find? fun bind =>
    let bindModifiers :=
      if Modifiers.contains bind.key.modifiers Modifiers.compositor then
        bind.key.modifiers ||| modKey.toModifiers
      else if Modifiers.contains bind.key.modifiers modKey.toModifiers then
        bind.key.modifiers ||| Modifiers.compositor
      else bind.key.modifiers
    bind.key.trigger == trigger && bindModifiers == modifiers

def findBind (bindings : List Bind) (modKey : ModKey) (modified : Keysym) (raw : Option Keysym)
    (mods : ModifiersState) (disablePowerKeyHandling : Bool) : Option Bind :=
  let hardcodedAction :=
    if Keysym.xf86SwitchVt1 ≤ modified ∧ modified ≤ Keysym.xf86SwitchVt12 then
      some (.changeVt ((modified - Keysym.xf86SwitchVt1 + 1 : ℕ) : ℤ))
    else if modified = Keysym.xf86PowerOff ∧ disablePowerKeyHandling = false then some .suspend
    else none
  match hardcodedAction with
  | some action => some (.hardcoded modified action true)
  | none => raw.bind fun raw => findConfiguredBind bindings modKey (.keysym raw) mods

/-! ## The screenshot UI -/

inductive ScreenshotUi
  | closed
  | opened (buttonDown : Bool)

namespace ScreenshotUi

def isOpen : ScreenshotUi → Bool
  | closed => false
  | opened _ => true

/-- The function `action` of `screenshot_ui.rs`. -/
def keyAction (raw : Keysym) (mods : ModifiersState) : Option Action :=
  if raw = Keysym.escape then some .cancelScreenshot
  else if mods.alt ∨ mods.shift then none
  else if mods.ctrl = false ∧ (raw = Keysym.space ∨ raw = Keysym.return_) then
    some (.confirmScreenshot true)
  else if mods.ctrl ∧ raw = Keysym.c then some (.confirmScreenshot false)
  else if mods.ctrl = false ∧ raw = Keysym.p then some .screenshotTogglePointer
  else none

/-- `ScreenshotUi::action`. -/
def action (self : ScreenshotUi) (raw : Keysym) (mods : ModifiersState) : Option Action :=
  match self with
  | closed => none
  | opened buttonDown =>
    if buttonDown ∧ raw = Keysym.space then none else keyAction raw mods

end ScreenshotUi

/-! ## The filter -/

/-- `FilterResult<Option<Bind>>`. -/
inductive FilterResult
  | forward
  | intercept (bind : Option Bind)
  deriving DecidableEq

/-- `WindowMruUi`, as far as keys go. -/
structure WindowMruUi where
  isOpen : Bool
  presetOpenedBinds : List Bind
  dynamicOpenedBinds : List Bind

/-- The configuration, as far as keys go. -/
structure Config where
  binds : List Bind
  recentWindowsOn : Bool
  recentWindowsBinds : List Bind
  disablePowerKeyHandling : Bool

/-- What a key event finds: the verdict of the accessibility monitor, what XKB makes of the
event, and the state of the compositor. -/
structure Situation where
  block : KbMonBlock
  mods : ModifiersState
  modified : Keysym
  raw : Option Keysym
  modKey : ModKey
  config : Config
  isInhibitingShortcuts : Bool
  exitConfirmDialogOpen : Bool
  windowMruUi : WindowMruUi
  /-- `grab_can_be_cancelled_with_esc` of the pointer grab. -/
  grabCanBeCancelled : Bool
  screenshotUi : ScreenshotUi
  /-- `keyboard_focus.is_overview()`. -/
  isOverview : Bool
  /-- The bind that the event triggers is on cooldown. -/
  onCooldown : Bool

def makeBindsIter (config : Config) (mru : WindowMruUi) (mods : Modifiers) : List Bind :=
  let fill (bind : Bind) : Bind := { bind with key := { bind.key with modifiers := mods } }
  (if mru.isOpen then [] else config.binds) ++
    (if config.recentWindowsOn || mru.isOpen then config.recentWindowsBinds else []) ++
    (if mru.isOpen then mru.presetOpenedBinds.map fill ++ mru.dynamicOpenedBinds.map fill else [])

def shouldInterceptKey (suppressedKeys : Finset Keycode) (bindings : List Bind)
    (modKey : ModKey) (keyCode : Keycode) (modified : Keysym) (raw : Option Keysym)
    (pressed : Bool) (mods : ModifiersState) (screenshotUi : ScreenshotUi)
    (disablePowerKeyHandling isInhibitingShortcuts : Bool) :
    FilterResult × Finset Keycode :=
  if pressed = false ∧ keyCode ∉ suppressedKeys then (.forward, suppressedKeys)
  else
    let found := findBind bindings modKey modified raw mods disablePowerKeyHandling
    let useScreenshotUiAction := !found.any fun bind => allowedDuringScreenshot bind.action
    let finalBind :=
      match raw with
      | some raw =>
        if screenshotUi.isOpen ∧ useScreenshotUiAction then
          (screenshotUi.action raw mods).map fun action => Bind.hardcoded raw action true
        else found
      | none => found
    match finalBind, pressed with
    | some bind, true =>
      if isInhibitingShortcuts ∧ bind.allowInhibiting then (.forward, suppressedKeys)
      else (.intercept (some bind), insert keyCode suppressedKeys)
    | _, false => (.intercept none, suppressedKeys.erase keyCode)
    | none, true => (.forward, suppressedKeys)

variable (s : Situation)

/-- The filter that `on_keyboard` passes to `KeyboardHandle::input`. -/
def filter (keyCode : Keycode) (pressed : Bool) (suppressedKeys : Finset Keycode) :
    FilterResult × Finset Keycode :=
  let modifiers := modifiersFromState s.mods
  if s.block ≠ .pass then
    if pressed = false ∧ s.modified ∈ Keysym.forwardedModifiers then (.forward, suppressedKeys)
    else (.intercept none, suppressedKeys)
  else if s.exitConfirmDialogOpen ∧ pressed then
    (.intercept none, insert keyCode suppressedKeys)
  else if s.windowMruUi.isOpen ∧ pressed = false ∧ modifiers = 0 then
    -- All modifiers were released: the MRU UI confirms and closes.
    if keyCode ∈ suppressedKeys then (.intercept none, suppressedKeys.erase keyCode)
    else (.forward, suppressedKeys)
  else if pressed ∧ s.raw = some Keysym.escape ∧ s.grabCanBeCancelled then
    (.intercept none, insert keyCode suppressedKeys)
  else
    let (res, suppressedKeys) := shouldInterceptKey suppressedKeys
      (makeBindsIter s.config s.windowMruUi modifiers) s.modKey keyCode s.modified s.raw pressed
      s.mods s.screenshotUi s.config.disablePowerKeyHandling s.isInhibitingShortcuts
    match res with
    | .forward =>
      if s.isOverview ∧ pressed then
        match s.raw.bind fun raw => hardcodedOverviewBind raw s.mods with
        | some bind => (.intercept (some bind), insert keyCode suppressedKeys)
        | none => (.forward, suppressedKeys)
      else (.forward, suppressedKeys)
    | .intercept bind => (.intercept bind, suppressedKeys)

/-- The bind that `on_keyboard` handles after the filter. -/
def handledBind (res : FilterResult) (pressed : Bool) : Option Bind :=
  match res with
  | .intercept bind => if pressed then bind else none
  | .forward => none

/-- `handle_bind` gets to a VT switch or a suspend. -/
def switchesVt (res : FilterResult) (pressed : Bool) : Bool :=
  (handledBind res pressed).any fun bind =>
    bind.action.clearsSuppressedKeys && !(bind.cooldown.isSome && s.onCooldown)

/-- `on_keyboard`: whether the event is forwarded to the client, and the suppressed keys. -/
def onKeyboard (keyCode : Keycode) (pressed : Bool) (suppressedKeys : Finset Keycode) :
    Bool × Finset Keycode :=
  if s.block = .modifierFirstPress then (false, suppressedKeys)
  else
    let (res, suppressedKeys) := filter s keyCode pressed suppressedKeys
    (res == .forward, if switchesVt s res pressed then ∅ else suppressedKeys)

/-! ## What the filter records -/

variable (suppressedKeys : Finset Keycode) (bindings : List Bind) (modKey : ModKey)

variable (keyCode : Keycode) (modified : Keysym) (raw : Option Keysym) (mods : ModifiersState)

variable (ui : ScreenshotUi) (power inhibiting : Bool)

theorem shouldInterceptKey_press :
    shouldInterceptKey suppressedKeys bindings modKey keyCode modified raw true mods ui power
        inhibiting = (.forward, suppressedKeys) ∨
      ∃ bind, shouldInterceptKey suppressedKeys bindings modKey keyCode modified raw true mods ui
        power inhibiting = (.intercept (some bind), insert keyCode suppressedKeys) := by
  unfold shouldInterceptKey
  rw [if_neg (fun hn => by cases hn.1)]
  simp only
  split
  · rename_i bind _ _
    split_ifs
    · exact Or.inl rfl
    · exact Or.inr ⟨bind, rfl⟩
  · contradiction
  · exact Or.inl rfl

theorem shouldInterceptKey_release :
    shouldInterceptKey suppressedKeys bindings modKey keyCode modified raw false mods ui power
        inhibiting =
      if keyCode ∈ suppressedKeys then (.intercept none, suppressedKeys.erase keyCode)
      else (.forward, suppressedKeys) := by
  unfold shouldInterceptKey
  by_cases hmem : keyCode ∈ suppressedKeys
  · rw [if_neg (by simp [hmem]), if_pos hmem]
    simp only
  · rw [if_pos ⟨rfl, hmem⟩, if_neg hmem]

/-- A press: the key is recorded exactly when the press is not forwarded. -/
theorem filter_press (suppressedKeys : Finset Keycode) (hblock : s.block = .pass) :
    filter s keyCode true suppressedKeys = (.forward, suppressedKeys) ∨
      ∃ bind, filter s keyCode true suppressedKeys =
        (.intercept bind, insert keyCode suppressedKeys) := by
  unfold filter
  simp only [hblock, ne_eq, not_true_eq_false, if_false, and_true, Bool.true_eq_false, false_and,
    and_false, true_and]
  by_cases hdialog : s.exitConfirmDialogOpen = true
  · rw [if_pos hdialog]
    exact Or.inr ⟨none, rfl⟩
  rw [if_neg hdialog]
  by_cases hescape : s.raw = some Keysym.escape ∧ s.grabCanBeCancelled = true
  · rw [if_pos hescape]
    exact Or.inr ⟨none, rfl⟩
  rw [if_neg hescape]
  obtain heq | ⟨bind, heq⟩ := shouldInterceptKey_press suppressedKeys
    (makeBindsIter s.config s.windowMruUi (modifiersFromState s.mods)) s.modKey keyCode
    s.modified s.raw s.mods s.screenshotUi s.config.disablePowerKeyHandling
    s.isInhibitingShortcuts
  · rw [heq]
    by_cases hoverview : s.isOverview = true
    · rw [if_pos hoverview]
      cases s.raw.bind fun raw => hardcodedOverviewBind raw s.mods with
      | none => exact Or.inl rfl
      | some bind => exact Or.inr ⟨some bind, rfl⟩
    · rw [if_neg hoverview]
      exact Or.inl rfl
  · rw [heq]
    exact Or.inr ⟨some bind, rfl⟩

/-- A release: the record decides, and is dropped. -/
theorem filter_release (suppressedKeys : Finset Keycode) (hblock : s.block = .pass) :
    filter s keyCode false suppressedKeys =
      if keyCode ∈ suppressedKeys then (.intercept none, suppressedKeys.erase keyCode)
      else (.forward, suppressedKeys) := by
  unfold filter
  simp only [hblock, ne_eq, not_true_eq_false, if_false, Bool.false_eq_true, and_false, false_and,
    shouldInterceptKey_release]
  split_ifs <;> rfl

/-! ## Runs -/

/-- A key event, and what it finds. -/
structure KeyEvent where
  keyCode : Keycode
  pressed : Bool
  situation : Situation

/-- The suppressed keys, and the keys that are down, with whether their press was forwarded. -/
structure Keys where
  suppressedKeys : Finset Keycode
  held : Keycode → Option Bool

namespace Keys

/-- No key is down. -/
def start : Keys := { suppressedKeys := ∅, held := fun _ => none }

variable (self : Keys)

/-- `on_keyboard` for the event. -/
def outcome (event : KeyEvent) : Bool × Finset Keycode :=
  onKeyboard event.situation event.keyCode event.pressed self.suppressedKeys

/-- One event.  The presses and releases of a key alternate. -/
def step (event : KeyEvent) : Option Keys :=
  let (forwarded, suppressedKeys) := self.outcome event
  match event.pressed, self.held event.keyCode with
  | true, none =>
    some { suppressedKeys, held := update self.held event.keyCode (some forwarded) }
  | false, some _ =>
    some { suppressedKeys, held := update self.held event.keyCode none }
  | _, _ => none

/-- No accessibility grab is active, and the event does not switch the VT or suspend. -/
def Undisturbed (event : KeyEvent) : Prop :=
  event.situation.block = .pass ∧
    switchesVt event.situation
      (filter event.situation event.keyCode event.pressed self.suppressedKeys).1
      event.pressed = false

/-- A release is forwarded exactly when the press of its key was. -/
def ReleasedAsPressed (event : KeyEvent) : Prop :=
  event.pressed = false → ∀ forwarded, self.held event.keyCode = some forwarded →
    (self.outcome event).1 = forwarded

/-- The suppressed keys are the keys that are down and whose press was intercepted. -/
def Exact : Prop :=
  ∀ keyCode, keyCode ∈ self.suppressedKeys ↔ self.held keyCode = some false

theorem start_exact : start.Exact := by
  intro keyCode
  simp [start]

variable {event : KeyEvent}

/-- Undisturbed, `on_keyboard` is its filter. -/
theorem outcome_eq {s : Keys} (h : s.Undisturbed event) :
    s.outcome event =
      ((filter event.situation event.keyCode event.pressed s.suppressedKeys).1 == .forward,
        (filter event.situation event.keyCode event.pressed s.suppressedKeys).2) := by
  unfold outcome onKeyboard
  rw [if_neg (by rw [h.1]; decide)]
  simp only
  rw [h.2, if_neg Bool.false_ne_true]

/-- **One event.** -/
theorem step_exact {s s' : Keys} (hs : s.Exact) (h : s.Undisturbed event)
    (hstep : s.step event = some s') : s'.Exact ∧ s.ReleasedAsPressed event := by
  have houtcome := outcome_eq h
  unfold step at hstep
  rw [houtcome] at hstep
  unfold ReleasedAsPressed
  rw [houtcome]
  cases hpressed : event.pressed with
  | true =>
    rw [hpressed] at hstep
    refine ⟨?_, fun hn => by cases hn⟩
    cases hheld : s.held event.keyCode with
    | some forwarded =>
      rw [hheld] at hstep
      cases hstep
    | none =>
      rw [hheld] at hstep
      obtain rfl := some.inj hstep
      have hup : event.keyCode ∉ s.suppressedKeys := by
        rw [hs, hheld]
        exact nofun
      intro keyCode
      show keyCode ∈ (filter _ _ _ _).2 ↔ update s.held event.keyCode _ keyCode = _
      obtain heq | ⟨bind, heq⟩ :=
        filter_press event.situation event.keyCode s.suppressedKeys h.1
      · rw [heq]
        by_cases hkey : keyCode = event.keyCode
        · rw [hkey, update_self]
          exact ⟨fun hmem => absurd hmem hup, nofun⟩
        · rw [update_of_ne hkey]
          exact hs keyCode
      · rw [heq]
        by_cases hkey : keyCode = event.keyCode
        · rw [hkey, update_self]
          exact ⟨fun _ => rfl, fun _ => mem_insert_self _ _⟩
        · rw [update_of_ne hkey, mem_insert]
          rw [or_iff_right hkey]
          exact hs keyCode
  | false =>
    rw [hpressed] at hstep
    rw [filter_release _ _ _ h.1] at hstep ⊢
    cases hheld : s.held event.keyCode with
    | none =>
      rw [hheld] at hstep
      cases hstep
    | some forwarded =>
      rw [hheld] at hstep
      obtain rfl := some.inj hstep
      have hmem : event.keyCode ∈ s.suppressedKeys ↔ forwarded = false := by
        rw [hs, hheld, some.injEq]
      constructor
      · intro keyCode
        show keyCode ∈ (if _ then _ else _ : FilterResult × Finset Keycode).2 ↔
          update s.held event.keyCode none keyCode = _
        by_cases hkey : keyCode = event.keyCode
        · rw [hkey, update_self]
          split_ifs with hsupp
          · exact ⟨fun hn => absurd hn (notMem_erase _ _), nofun⟩
          · exact ⟨fun hn => absurd hn hsupp, nofun⟩
        · rw [update_of_ne hkey]
          split_ifs
          · rw [mem_erase, ← hs]
            exact and_iff_right hkey
          · exact hs keyCode
      · intro _ forwarded' hforwarded
        obtain rfl := some.inj hforwarded
        split_ifs with hsupp
        · rw [hmem.mp hsupp]
          rfl
        · rw [Bool.eq_true_of_not_eq_false fun hn => hsupp (hmem.mpr hn)]
          rfl

/-- **Keys reach the client in pairs.**  However the modifiers, the binds and the state of the
compositor change between the events, every release is forwarded exactly when its press was, and
at every moment the suppressed keys are the keys that are down and whose press was
intercepted. -/
theorem keys_paired (es : List KeyEvent) (h : Along step Undisturbed start es) :
    Along step ReleasedAsPressed start es ∧ Always step Exact start es := by
  suffices key : ∀ s : Keys, s.Exact → Along step Undisturbed s es →
      Along step ReleasedAsPressed s es ∧ Always step Exact s es from key start start_exact h
  clear h
  induction es with
  | nil => exact fun s hs _ => ⟨trivial, hs⟩
  | cons e es ih =>
    intro s hs h
    have hnext : ∀ s', s.step e = some s' → s.ReleasedAsPressed e ∧
        Along step ReleasedAsPressed s' es ∧ Always step Exact s' es := by
      intro s' hstep
      obtain ⟨hundisturbed, hrest⟩ := h s' hstep
      obtain ⟨hs', hmatches⟩ := step_exact hs hundisturbed hstep
      exact ⟨hmatches, ih s' hs' hrest⟩
    constructor
    · intro s' hstep
      exact ⟨(hnext s' hstep).1, (hnext s' hstep).2.1⟩
    · exact ⟨hs, fun s' hstep => (hnext s' hstep).2.2⟩

/-- Q with Super down, while nothing is open; `binds` is the configuration. -/
def superQ (binds : List Bind) (exitConfirmDialogOpen : Bool) : Situation where
  block := .pass
  mods := { ctrl := false, alt := false, shift := false, logo := true,
            isoLevel3Shift := false, isoLevel5Shift := false }
  modified := 0x71
  raw := some 0x71
  modKey := .super
  config := { binds, recentWindowsOn := false, recentWindowsBinds := [],
              disablePowerKeyHandling := false }
  isInhibitingShortcuts := false
  exitConfirmDialogOpen
  windowMruUi := { isOpen := false, presetOpenedBinds := [], dynamicOpenedBinds := [] }
  grabCanBeCancelled := false
  screenshotUi := .closed
  isOverview := false
  onCooldown := false

/-- `Mod+Q { close-window; }`. -/
def closeWindow : Bind where
  key := { trigger := .keysym 0x71, modifiers := Modifiers.compositor }
  action := .other 0 false
  repeats := true
  cooldown := none
  allowWhenLocked := false
  allowInhibiting := true
  hotkeyOverlayTitle := none

/-- Q goes down while it is bound and another key goes down while it is not; the exit dialog is
open when they come up. -/
theorem keys_paired_rebound :
    Along step ReleasedAsPressed start
      [⟨24, true, superQ [closeWindow] false⟩, ⟨38, true, superQ [] false⟩,
        ⟨24, false, superQ [] true⟩, ⟨38, false, superQ [] true⟩] := by
  refine (keys_paired _ ?_).1
  intro s₁ h₁
  obtain rfl := some.inj h₁
  refine ⟨⟨rfl, by decide +kernel⟩, fun s₂ h₂ => ?_⟩
  obtain rfl := some.inj h₂
  refine ⟨⟨rfl, by decide +kernel⟩, fun s₃ h₃ => ?_⟩
  obtain rfl := some.inj h₃
  refine ⟨⟨rfl, by decide +kernel⟩, fun s₄ h₄ => ?_⟩
  exact ⟨⟨rfl, by decide +kernel⟩, trivial⟩

end Keys

end Tiri.Input
