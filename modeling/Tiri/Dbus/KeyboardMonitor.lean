import Tiri.Lib.HashMap
import Tiri.Lib.Run

/-!
# The accessibility keyboard monitor

`src/dbus/freedesktop_a11y.rs`.  Screen readers watch and grab keys over D-Bus; `process_key`
decides for every hardware key event whether it is blocked, before the XKB state changes.  The
keys whose press was blocked are remembered by keysym, in `suppressed_keys`.

Results:
* `processKey_release`: a release is blocked exactly when its keysym is suppressed;
* `paired_iff`: releases get the verdict of their press in the runs in which suppressed keysyms
  are not shared or changed, and every other step leads to a run in which one does not.
-/

namespace Tiri.Dbus

open Tiri.Run Option Function Finset

/-- An XKB keysym. -/
abbrev Keysym := ℕ

/-- The code of a physical key. -/
abbrev Keycode := ℕ

structure Client where
  watched : Bool
  grabbed : Bool
  modifiers : Finset Keysym
  keystrokes : List (Keysym × ℕ)

/-- `Client::default`. -/
def Client.default : Client :=
  { watched := false, grabbed := false, modifiers := ∅, keystrokes := [] }

/-- `Data`; clients go by the unique name of their connection. -/
structure Data (Name : Type) where
  clients : HashMap Name Client
  grabbedMods : Finset Keysym
  grabbedModLastPressTime : HashMap Keysym ℕ
  suppressedKeys : Finset Keysym

inductive KbMonBlock
  /-- Not blocked. -/
  | pass
  /-- Blocked, and this is the first press or release of the accessibility modifier. -/
  | modifierFirstPress
  /-- Blocked, and this is not the accessibility modifier. -/
  | block
  deriving DecidableEq

namespace KbMonBlock

/-- What the caller does not handle as usual. -/
def isBlocked (b : KbMonBlock) : Bool := b != .pass

end KbMonBlock

/-! ## Clients -/

namespace Client

def shouldGrabKeypress (self : Client) (suppressedKeys : Finset Keysym) (mods : ℕ)
    (keysym : Keysym) : Bool :=
  self.grabbed ||
    decide (∃ modifier ∈ self.modifiers, modifier = keysym ∨ modifier ∈ suppressedKeys) ||
    self.keystrokes.any fun (grabbedKeysym, grabbedMods) =>
      grabbedKeysym == keysym && grabbedMods == mods

end Client

namespace Data

section Functions

variable {Name : Type} [DecidableEq Name]

/-- `Data::default`. -/
def default : Data Name :=
  { clients := ∅, grabbedMods := ∅, grabbedModLastPressTime := ∅, suppressedKeys := ∅ }

variable (self : Data Name)

def rebuildGrabbedMods : Data Name :=
  { self with grabbedMods := (self.clients.entries.map fun entry => entry.2.modifiers).sup }

/-! ## D-Bus methods -/

/-- `data.clients.entry(sender).or_default()`, changed by `f`. -/
def modifyClient (sender : Name) (f : Client → Client) : Data Name :=
  { self with
    clients := self.clients.insert sender (f ((self.clients.lookup sender).getD .default)) }

/-- `data.clients.get_mut(&sender)`, changed by `f`. -/
def modifyExisting (sender : Name) (f : Client → Client) : Data Name :=
  match self.clients.lookup sender with
  | some client => { self with clients := self.clients.insert sender (f client) }
  | none => self

/-- What every method does first: `hdr.sender()`. -/
def withSender (sender : Option Name) (f : Name → Data Name) : Except String (Data Name) :=
  match sender with
  | some sender => .ok (f sender)
  | none => .error "no sender"

def grabKeyboard (sender : Option Name) : Except String (Data Name) :=
  withSender sender fun sender =>
    self.modifyClient sender fun client => { client with grabbed := true }

def ungrabKeyboard (sender : Option Name) : Except String (Data Name) :=
  withSender sender fun sender =>
    self.modifyExisting sender fun client => { client with grabbed := false }

def watchKeyboard (sender : Option Name) : Except String (Data Name) :=
  withSender sender fun sender =>
    self.modifyClient sender fun client => { client with watched := true }

def unwatchKeyboard (sender : Option Name) : Except String (Data Name) :=
  withSender sender fun sender =>
    self.modifyExisting sender fun client => { client with watched := false }

def setKeyGrabs (sender : Option Name) (modifiers : List Keysym) (keystrokes : List (Keysym × ℕ)) :
    Except String (Data Name) :=
  withSender sender fun sender =>
    (self.modifyClient sender fun client =>
      { client with modifiers := modifiers.toFinset, keystrokes }).rebuildGrabbedMods

/-- The body of the loop in `monitor_disappeared_clients`, for one `NameOwnerChanged` signal. -/
def nameOwnerChanged (oldOwner newOwner : Option Name) : Data Name :=
  match oldOwner, newOwner with
  | some name, none => { self with clients := self.clients.erase name }.rebuildGrabbedMods
  | _, _ => self

/-- What `start` does when `monitor_disappeared_clients` fails. -/
def monitorBroken : Data Name :=
  { self with clients := ∅ }.rebuildGrabbedMods

/-! ## `process_key` -/

/-- A hardware key event, with what the XKB state gives for it. -/
structure KeyEvent where
  keycode : Keycode
  released : Bool
  mods : ℕ
  keysym : Keysym
  time : ℕ
  repeatDelay : ℕ

/-- Some client grabs the key. -/
def grabs (event : KeyEvent) : Bool :=
  self.clients.any fun _ client =>
    client.shouldGrabKeypress self.suppressedKeys event.mods event.keysym

/-- The time of the last press of a grabbed modifier, `Duration::ZERO` without one. -/
def lastPress (keysym : Keysym) : ℕ :=
  (self.grabbedModLastPressTime.lookup keysym).getD 0

/-- The press of a grabbed modifier that was pressed shortly before, which is handled as normal. -/
def isSecondPress (event : KeyEvent) : Bool :=
  decide (event.keysym ∈ self.grabbedMods) &&
    decide (event.time ≤ self.lastPress event.keysym + event.repeatDelay)

/-- `process_key` from `let mut block = false` on. -/
def processGrabs (event : KeyEvent) : Data Name × KbMonBlock :=
  let (suppressedKeys, block) :=
    if event.released then
      (self.suppressedKeys.erase event.keysym, decide (event.keysym ∈ self.suppressedKeys))
    else if event.keysym ∈ self.suppressedKeys then (self.suppressedKeys, true)
    else if self.grabs event then (insert event.keysym self.suppressedKeys, true)
    else (self.suppressedKeys, false)
  let verdict :=
    if !block then .pass
    else if event.keysym ∈ self.grabbedMods then .modifierFirstPress
    else .block
  ({ self with suppressedKeys }, verdict)

/-- `process_key`, apart from the signals it emits. -/
def processKey (event : KeyEvent) : Data Name × KbMonBlock :=
  if event.keysym ∈ self.grabbedMods then
    if event.released then
      -- The release of the second press, which was handled as normal.
      if event.keysym ∉ self.suppressedKeys then (self, .pass) else self.processGrabs event
    else
      let pressed := { self with
        grabbedModLastPressTime := self.grabbedModLastPressTime.insert event.keysym event.time }
      if event.time ≤ self.lastPress event.keysym + event.repeatDelay then (pressed, .pass)
      else pressed.processGrabs event
  else self.processGrabs event

/-! ## What the methods and the key events do to the suppressed keys -/

omit [DecidableEq Name] in
@[simp] theorem rebuildGrabbedMods_suppressedKeys :
    self.rebuildGrabbedMods.suppressedKeys = self.suppressedKeys := rfl

variable (sender : Name) (f : Client → Client)

@[simp] theorem modifyClient_suppressedKeys :
    (self.modifyClient sender f).suppressedKeys = self.suppressedKeys := rfl

@[simp] theorem modifyExisting_suppressedKeys :
    (self.modifyExisting sender f).suppressedKeys = self.suppressedKeys := by
  unfold modifyExisting
  split <;> rfl

@[simp] theorem nameOwnerChanged_suppressedKeys (oldOwner newOwner : Option Name) :
    (self.nameOwnerChanged oldOwner newOwner).suppressedKeys = self.suppressedKeys := by
  unfold nameOwnerChanged
  split <;> rfl

variable {event : KeyEvent}

section

omit [DecidableEq Name]

/-- A release is blocked exactly when its keysym is suppressed, which it then no longer is. -/
theorem processKey_release (h : event.released = true) :
    (self.processKey event).2.isBlocked = decide (event.keysym ∈ self.suppressedKeys) ∧
      (self.processKey event).1.suppressedKeys = self.suppressedKeys.erase event.keysym := by
  unfold processKey processGrabs KbMonBlock.isBlocked
  by_cases hsupp : event.keysym ∈ self.suppressedKeys
  · by_cases hmod : event.keysym ∈ self.grabbedMods <;> simp [h, hsupp, hmod]
  · by_cases hmod : event.keysym ∈ self.grabbedMods <;> simp [h, hsupp, hmod]

/-- A press of a keysym that is not suppressed: it becomes so if the press is blocked. -/
theorem processKey_press (h : event.released = false) (hsupp : event.keysym ∉ self.suppressedKeys) :
    (self.processKey event).1.suppressedKeys =
      if (self.processKey event).2.isBlocked then insert event.keysym self.suppressedKeys
      else self.suppressedKeys := by
  unfold processKey
  have hgrabs : ∀ d : Data Name, d.suppressedKeys = self.suppressedKeys →
      (d.processGrabs event).1.suppressedKeys =
        if (d.processGrabs event).2.isBlocked then insert event.keysym self.suppressedKeys
        else self.suppressedKeys := by
    intro d hd
    unfold processGrabs KbMonBlock.isBlocked
    rw [hd]
    by_cases hgrab : d.grabs event = true
    · by_cases hmod : event.keysym ∈ d.grabbedMods <;> simp [h, hsupp, hgrab, hmod]
    · simp [h, hsupp, hgrab]
  by_cases hmod : event.keysym ∈ self.grabbedMods
  · by_cases hsecond : event.time ≤ self.lastPress event.keysym + event.repeatDelay
    · simp [h, hmod, hsecond, KbMonBlock.isBlocked]
    · simp only [h, hmod, hsecond, if_true, if_false, Bool.false_eq_true]
      exact hgrabs _ rfl
  · rw [if_neg hmod]
    exact hgrabs self rfl

/-- A press of a suppressed keysym is blocked, unless it is a second press. -/
theorem processKey_press_suppressed (h : event.released = false)
    (hsupp : event.keysym ∈ self.suppressedKeys) :
    (self.processKey event).2.isBlocked = !self.isSecondPress event ∧
      (self.processKey event).1.suppressedKeys = self.suppressedKeys := by
  unfold processKey processGrabs isSecondPress KbMonBlock.isBlocked
  by_cases hmod : event.keysym ∈ self.grabbedMods
  · by_cases hsecond : event.time ≤ self.lastPress event.keysym + event.repeatDelay <;>
      simp [h, hsupp, hmod, hsecond]
  · simp [h, hsupp, hmod]

end

end Functions

end Data

/-! ## Runs -/

/-- What happens to the monitor. -/
inductive Event (Name : Type)
  | key (event : Data.KeyEvent)
  | grabKeyboard (sender : Option Name)
  | ungrabKeyboard (sender : Option Name)
  | watchKeyboard (sender : Option Name)
  | unwatchKeyboard (sender : Option Name)
  | setKeyGrabs (sender : Option Name) (modifiers : List Keysym) (keystrokes : List (Keysym × ℕ))
  | nameOwnerChanged (oldOwner newOwner : Option Name)
  | monitorBroken

/-- The monitor, and the keys that are down: the keysym each of them was pressed with, and whether
that press was blocked. -/
structure Keyboard (Name : Type) where
  data : Data Name
  held : Keycode → Option (Keysym × Bool)

namespace Keyboard

variable {Name : Type} [DecidableEq Name]

/-- No key is down and no screen reader has come. -/
def start : Keyboard Name := { data := .default, held := fun _ => none }

variable (self : Keyboard Name)

/-- A D-Bus call; one that fails changes nothing. -/
def call (result : Except String (Data Name)) : Keyboard Name :=
  match result with
  | .ok data => { self with data }
  | .error _ => self

/-- One event.  The presses and releases of a key alternate. -/
def step : Event Name → Option (Keyboard Name)
  | .key event =>
    let (data, verdict) := self.data.processKey event
    match event.released, self.held event.keycode with
    | false, none =>
      let held := update self.held event.keycode (some (event.keysym, verdict.isBlocked))
      some { data, held }
    | true, some _ => some { data, held := update self.held event.keycode none }
    | _, _ => none
  | .grabKeyboard sender => some (self.call (self.data.grabKeyboard sender))
  | .ungrabKeyboard sender => some (self.call (self.data.ungrabKeyboard sender))
  | .watchKeyboard sender => some (self.call (self.data.watchKeyboard sender))
  | .unwatchKeyboard sender => some (self.call (self.data.unwatchKeyboard sender))
  | .setKeyGrabs sender modifiers keystrokes =>
    some (self.call (self.data.setKeyGrabs sender modifiers keystrokes))
  | .nameOwnerChanged oldOwner newOwner =>
    some { self with data := self.data.nameOwnerChanged oldOwner newOwner }
  | .monitorBroken => some { self with data := self.data.monitorBroken }

/-- A release gets the verdict of the press of its key. -/
def ReleasedAsPressed : Event Name → Prop
  | .key event => event.released = true → ∀ keysym blocked,
      self.held event.keycode = some (keysym, blocked) →
      (self.data.processKey event).2.isBlocked = blocked
  | _ => True

/-- Nothing is suppressed while no key is down. -/
def NothingStuck : Prop :=
  (∀ keycode, self.held keycode = none) → self.data.suppressedKeys = ∅

/-- **Presses and releases are blocked in pairs**, all along a run. -/
def BlocksInPairs (events : List (Event Name)) : Prop :=
  Along step ReleasedAsPressed self events ∧ Always step NothingStuck self events

/-- The condition on one event: a press under a keysym that is already suppressed is let through
as the second press of a modifier; a key whose press was blocked is released under the keysym it
was pressed with, and any other key under a keysym that is not suppressed. -/
def KeysymsApart : Event Name → Prop
  | .key event =>
    match event.released, self.held event.keycode with
    | false, _ => event.keysym ∈ self.data.suppressedKeys → self.data.isSecondPress event = true
    | true, some (keysym, true) => event.keysym = keysym
    | true, some (_, false) => event.keysym ∉ self.data.suppressedKeys
    | true, none => True
  | _ => True

/-- The suppressed keysyms are those that the blocked keys were pressed with, one for each. -/
structure Inv (s : Keyboard Name) : Prop where
  suppressed : ∀ keysym, keysym ∈ s.data.suppressedKeys ↔
    ∃ keycode, s.held keycode = some (keysym, true)
  injective : ∀ keysym k₁ k₂, s.held k₁ = some (keysym, true) →
    s.held k₂ = some (keysym, true) → k₁ = k₂

omit [DecidableEq Name] in
theorem start_inv : (start : Keyboard Name).Inv where
  suppressed keysym := by simp [start, Data.default]
  injective keysym k₁ k₂ h := by cases h

variable {s s' : Keyboard Name} {e : Event Name} {event : Data.KeyEvent} {data : Data Name}
variable {keycode : Keycode} {keysym : Keysym}

/-- An event that is not a key event leaves the keys and the suppressed keysyms alone. -/
theorem step_other (he : ∀ event, e ≠ .key event) (h : s.step e = some s') :
    s'.held = s.held ∧ s'.data.suppressedKeys = s.data.suppressedKeys := by
  have hcall : ∀ result : Except String (Data Name),
      (∀ d, result = .ok d → d.suppressedKeys = s.data.suppressedKeys) →
      (s.call result).held = s.held ∧
        (s.call result).data.suppressedKeys = s.data.suppressedKeys := by
    intro result hresult
    cases result with
    | ok d => exact ⟨rfl, hresult d rfl⟩
    | error text => exact ⟨rfl, rfl⟩
  have hwith : ∀ (sender : Option Name) (f : Name → Data Name),
      (∀ name, (f name).suppressedKeys = s.data.suppressedKeys) →
      (s.call (Data.withSender sender f)).held = s.held ∧
        (s.call (Data.withSender sender f)).data.suppressedKeys = s.data.suppressedKeys := by
    intro sender f hf
    refine hcall _ fun d hd => ?_
    cases sender with
    | none => cases hd
    | some name => rw [← Except.ok.inj hd, hf]
  cases e with
  | key event => exact absurd rfl (he event)
  | grabKeyboard sender =>
    obtain rfl := some.inj h
    exact hwith sender _ fun name => by simp
  | ungrabKeyboard sender =>
    obtain rfl := some.inj h
    exact hwith sender _ fun name => by simp
  | watchKeyboard sender =>
    obtain rfl := some.inj h
    exact hwith sender _ fun name => by simp
  | unwatchKeyboard sender =>
    obtain rfl := some.inj h
    exact hwith sender _ fun name => by simp
  | setKeyGrabs sender modifiers keystrokes =>
    obtain rfl := some.inj h
    exact hwith sender _ fun name => by simp
  | nameOwnerChanged oldOwner newOwner =>
    obtain rfl := some.inj h
    exact ⟨rfl, by simp⟩
  | monitorBroken =>
    obtain rfl := some.inj h
    exact ⟨rfl, rfl⟩

/-- A press finds its key up, and records its verdict. -/
theorem step_press (hpress : event.released = false) (h : s.step (.key event) = some s') :
    s.held event.keycode = none ∧ s' = { data := (s.data.processKey event).1
                                         held := update s.held event.keycode (some
                                           (event.keysym,
                                             (s.data.processKey event).2.isBlocked)) } := by
  simp only [step, hpress] at h
  cases hheld : s.held event.keycode with
  | none =>
    rw [hheld] at h
    exact ⟨rfl, (some.inj h).symm⟩
  | some pressed =>
    rw [hheld] at h
    cases h

/-- A release finds its key down. -/
theorem step_release (hrelease : event.released = true) (h : s.step (.key event) = some s') :
    ∃ keysym blocked, s.held event.keycode = some (keysym, blocked) ∧
      s' = { data := (s.data.processKey event).1
             held := update s.held event.keycode none } := by
  simp only [step, hrelease] at h
  cases hheld : s.held event.keycode with
  | none =>
    rw [hheld] at h
    cases h
  | some pressed =>
    rw [hheld] at h
    exact ⟨pressed.1, pressed.2, rfl, (some.inj h).symm⟩

/-! ## The pairs -/

section

omit [DecidableEq Name]

/-- A key whose press was not blocked goes down. -/
theorem Inv.press_passed (hs : s.Inv) (hup : s.held keycode = none)
    (hdata : data.suppressedKeys = s.data.suppressedKeys) :
    Inv { data, held := update s.held keycode (some (keysym, false)) } := by
  have hheld : ∀ k keysym', update s.held keycode (some (keysym, false)) k =
      some (keysym', true) ↔ s.held k = some (keysym', true) := by
    intro k keysym'
    by_cases hk : k = keycode
    · rw [hk, update_self, hup]
      simp
    · rw [update_of_ne hk]
  constructor
  · intro keysym'
    simp only [hdata, hheld]
    exact hs.suppressed keysym'
  · intro keysym' k₁ k₂ h₁ h₂
    exact hs.injective keysym' k₁ k₂ ((hheld _ _).mp h₁) ((hheld _ _).mp h₂)

/-- A key whose press was blocked, and whose keysym was not suppressed, goes down. -/
theorem Inv.press_blocked (hs : s.Inv) (hup : s.held keycode = none)
    (hnew : keysym ∉ s.data.suppressedKeys)
    (hdata : data.suppressedKeys = insert keysym s.data.suppressedKeys) :
    Inv { data, held := update s.held keycode (some (keysym, true)) } := by
  have hfresh : ∀ k, s.held k ≠ some (keysym, true) := fun k hk =>
    hnew ((hs.suppressed keysym).mpr ⟨k, hk⟩)
  have hheld : ∀ k keysym', update s.held keycode (some (keysym, true)) k =
      some (keysym', true) ↔
        (k = keycode ∧ keysym' = keysym) ∨ s.held k = some (keysym', true) := by
    intro k keysym'
    by_cases hk : k = keycode
    · rw [hk, update_self, hup]
      simp [eq_comm]
    · simp [hk]
  constructor
  · intro keysym'
    simp only [hdata, hheld, mem_insert, hs.suppressed]
    constructor
    · rintro (hkeysym | ⟨k, hk⟩)
      · exact ⟨keycode, Or.inl ⟨rfl, hkeysym⟩⟩
      · exact ⟨k, Or.inr hk⟩
    · rintro ⟨k, ⟨-, hkeysym⟩ | hk⟩
      · exact Or.inl hkeysym
      · exact Or.inr ⟨k, hk⟩
  · intro keysym' k₁ k₂ h₁ h₂
    rcases (hheld _ _).mp h₁ with ⟨hk₁, hkeysym⟩ | h₁
    · rcases (hheld _ _).mp h₂ with ⟨hk₂, -⟩ | h₂
      · rw [hk₁, hk₂]
      · exact absurd (hkeysym ▸ h₂) (hfresh k₂)
    · rcases (hheld _ _).mp h₂ with ⟨-, hkeysym⟩ | h₂
      · exact absurd (hkeysym ▸ h₁) (hfresh k₁)
      · exact hs.injective keysym' k₁ k₂ h₁ h₂

/-- A blocked key goes up under the keysym it was pressed with. -/
theorem Inv.release_blocked (hs : s.Inv) (hdown : s.held keycode = some (keysym, true))
    (hdata : data.suppressedKeys = s.data.suppressedKeys.erase keysym) :
    Inv { data, held := update s.held keycode none } := by
  have hheld : ∀ k keysym', update s.held keycode none k = some (keysym', true) ↔
      k ≠ keycode ∧ s.held k = some (keysym', true) := by
    intro k keysym'
    by_cases hk : k = keycode
    · rw [hk, update_self]
      simp
    · simp [hk]
  constructor
  · intro keysym'
    simp only [hdata, hheld, mem_erase, hs.suppressed]
    constructor
    · rintro ⟨hne, k, hk⟩
      refine ⟨k, ?_, hk⟩
      rintro rfl
      rw [hdown, some.injEq, Prod.mk.injEq] at hk
      exact hne hk.1.symm
    · rintro ⟨k, hne, hk⟩
      refine ⟨?_, k, hk⟩
      rintro rfl
      exact hne (hs.injective _ k keycode hk hdown)
  · intro keysym' k₁ k₂ h₁ h₂
    exact hs.injective keysym' k₁ k₂ ((hheld _ _).mp h₁).2 ((hheld _ _).mp h₂).2

/-- A key whose press was not blocked goes up. -/
theorem Inv.release_passed (hs : s.Inv) (hdown : s.held keycode = some (keysym, false))
    (hdata : data.suppressedKeys = s.data.suppressedKeys) :
    Inv { data, held := update s.held keycode none } := by
  have hheld : ∀ k keysym', update s.held keycode none k = some (keysym', true) ↔
      s.held k = some (keysym', true) := by
    intro k keysym'
    by_cases hk : k = keycode
    · rw [hk, update_self, hdown]
      simp
    · rw [update_of_ne hk]
  constructor
  · intro keysym'
    simp only [hdata, hheld]
    exact hs.suppressed keysym'
  · intro keysym' k₁ k₂ h₁ h₂
    exact hs.injective keysym' k₁ k₂ ((hheld _ _).mp h₁) ((hheld _ _).mp h₂)

end

/-- **A step that meets the condition.** -/
theorem step_inv (hs : s.Inv) (hC : s.KeysymsApart e) (h : s.step e = some s') :
    s'.Inv ∧ s.ReleasedAsPressed e := by
  by_cases he : ∃ event, e = .key event
  · obtain ⟨event, rfl⟩ := he
    cases hreleased : event.released with
    | false =>
      refine ⟨?_, fun hn => by rw [hreleased] at hn; cases hn⟩
      obtain ⟨hup, rfl⟩ := step_press hreleased h
      by_cases hsupp : event.keysym ∈ s.data.suppressedKeys
      · have hsecond : s.data.isSecondPress event = true := by
          simp only [KeysymsApart, hreleased] at hC
          exact hC hsupp
        obtain ⟨hverdict, hdata⟩ := s.data.processKey_press_suppressed hreleased hsupp
        rw [hverdict, hsecond]
        exact hs.press_passed hup hdata
      · have hdata := s.data.processKey_press hreleased hsupp
        cases hverdict : (s.data.processKey event).2.isBlocked with
        | false =>
          rw [hverdict, if_neg Bool.false_ne_true] at hdata
          exact hs.press_passed hup hdata
        | true =>
          rw [hverdict, if_pos rfl] at hdata
          exact hs.press_blocked hup hsupp hdata
    | true =>
      obtain ⟨keysym, blocked, hdown, rfl⟩ := step_release hreleased h
      obtain ⟨hverdict, hdata⟩ := s.data.processKey_release hreleased
      have hmatches : (s.data.processKey event).2.isBlocked = blocked →
          s.ReleasedAsPressed (.key event) := by
        intro hblocked _ keysym' blocked' hdown'
        rw [hdown, some.injEq, Prod.mk.injEq] at hdown'
        rw [hblocked, hdown'.2]
      simp only [KeysymsApart, hreleased, hdown] at hC
      cases blocked with
      | true =>
        have hsupp : event.keysym ∈ s.data.suppressedKeys :=
          (hs.suppressed _).mpr ⟨event.keycode, hC ▸ hdown⟩
        refine ⟨hs.release_blocked hdown ?_, hmatches ?_⟩
        · rw [hdata]
          exact congrArg _ hC
        · rw [hverdict, decide_eq_true hsupp]
      | false =>
        have hsupp : event.keysym ∉ s.data.suppressedKeys := hC
        refine ⟨hs.release_passed hdown ?_, hmatches ?_⟩
        · rw [hdata, erase_eq_of_notMem hsupp]
        · rw [hverdict, decide_eq_false hsupp]
  · have hother : ∀ event, e ≠ .key event := fun event heq => he ⟨event, heq⟩
    obtain ⟨hheld, hdata⟩ := step_other hother h
    refine ⟨⟨?_, ?_⟩, ?_⟩
    · intro keysym
      rw [hdata, hheld]
      exact hs.suppressed keysym
    · intro keysym k₁ k₂
      rw [hheld]
      exact hs.injective keysym k₁ k₂
    · cases e with
      | key event => exact absurd rfl (hother event)
      | _ => trivial

omit [DecidableEq Name] in
theorem Inv.nothingStuck (hs : s.Inv) : s.NothingStuck := by
  intro hup
  rw [eq_empty_iff_forall_notMem]
  intro keysym hmem
  obtain ⟨keycode, hdown⟩ := (hs.suppressed keysym).mp hmem
  rw [hup keycode] at hdown
  cases hdown

variable {es : List (Event Name)}

/-- In a run whose steps meet the condition, keys are blocked in pairs. -/
theorem blocksInPairs_of_along (hs : s.Inv) (hC : Along step KeysymsApart s es) :
    s.BlocksInPairs es := by
  induction es generalizing s with
  | nil => exact ⟨trivial, hs.nothingStuck⟩
  | cons e es ih =>
    have hnext : ∀ s', s.step e = some s' →
        s.ReleasedAsPressed e ∧ s'.BlocksInPairs es := by
      intro s' hstep
      obtain ⟨hCs, hrest⟩ := hC s' hstep
      obtain ⟨hs', hmatches⟩ := step_inv hs hCs hstep
      exact ⟨hmatches, ih hs' hrest⟩
    constructor
    · intro s' hstep
      exact ⟨(hnext s' hstep).1, (hnext s' hstep).2.1⟩
    · exact ⟨hs.nothingStuck, fun s' hstep => (hnext s' hstep).2.2⟩

/-! ## Steps that do not meet the condition -/

/-- The release of a key under a keysym. -/
def release (keycode : Keycode) (keysym : Keysym) : Data.KeyEvent :=
  { keycode, released := true, mods := 0, keysym, time := 0, repeatDelay := 0 }

theorem step_release_some (s : Keyboard Name) {pressed : Keysym × Bool} (keysym : Keysym)
    (hdown : s.held keycode = some pressed) :
    ∃ s', s.step (.key (release keycode keysym)) = some s' ∧
      s'.data.suppressedKeys = s.data.suppressedKeys.erase keysym ∧
      s'.held = update s.held keycode none := by
  refine ⟨{ data := (s.data.processKey (release keycode keysym)).1
            held := update s.held keycode none }, ?_, ?_, rfl⟩
  · simp only [release, step, hdown]
  · exact (s.data.processKey_release rfl).2

omit [DecidableEq Name] in
/-- A key that is released under a keysym whose suppression is not its verdict breaks its pair. -/
theorem not_releasedAsPressed {blocked : Bool} (hreleased : event.released = true)
    (hdown : s.held event.keycode = some (keysym, blocked))
    (hsupp : decide (event.keysym ∈ s.data.suppressedKeys) ≠ blocked) :
    ¬ s.ReleasedAsPressed (.key event) := by
  intro h
  have hverdict := h hreleased keysym blocked hdown
  rw [(s.data.processKey_release hreleased).1] at hverdict
  exact hsupp hverdict

theorem not_along_of_step (h : s.step e = some s') (hn : ¬ s.ReleasedAsPressed e) :
    ¬ Along step ReleasedAsPressed s (e :: es) :=
  fun hall => hn (hall s' h).1

/-- Of two blocked keys and one suppressed keysym, the second release breaks its pair. -/
theorem not_along_of_shared {k : Keycode} {keysym' : Keysym}
    (hdown : s.held k = some (keysym', true)) (hsupp : keysym ∉ s.data.suppressedKeys) :
    ∃ t, exec step s [.key (release k keysym)] = some t ∧
      ¬ Along step ReleasedAsPressed s [.key (release k keysym)] := by
  obtain ⟨t, ht, -⟩ := s.step_release_some keysym hdown
  refine ⟨t, exec_cons_eq_some.mpr ⟨t, ht, rfl⟩, not_along_of_step ht ?_⟩
  refine not_releasedAsPressed rfl hdown ?_
  show decide (keysym ∈ s.data.suppressedKeys) ≠ true
  rw [decide_eq_false hsupp]
  exact Bool.false_ne_true

/-- **A step that does not meet the condition** is followed by releases that break a pair. -/
theorem exists_unpaired (hs : s.Inv) (hC : ¬ s.KeysymsApart e) (h : s.step e = some s') :
    ∃ es t, exec step s (e :: es) = some t ∧ ¬ Along step ReleasedAsPressed s (e :: es) := by
  cases e with
  | key event =>
    cases hreleased : event.released with
    | false =>
      -- The keysym is that of another key, which will no longer find it once this key is up.
      obtain ⟨hup, hs'⟩ := step_press hreleased h
      simp only [KeysymsApart, hreleased, Classical.not_imp] at hC
      obtain ⟨hsupp, hsecond⟩ := hC
      obtain ⟨k, hk⟩ := (hs.suppressed _).mp hsupp
      obtain ⟨hverdict, hdata⟩ := s.data.processKey_press_suppressed hreleased hsupp
      have hne : k ≠ event.keycode := by
        rintro rfl
        rw [hup] at hk
        cases hk
      have hk' : s'.held k = some (event.keysym, true) := by
        rw [hs']
        show update s.held event.keycode _ k = _
        rw [update_of_ne hne, hk]
      have hevent : s'.held event.keycode = some (event.keysym, true) := by
        rw [hs']
        show update s.held event.keycode _ event.keycode = _
        rw [update_self, hverdict, Bool.eq_false_iff.mpr hsecond]
        rfl
      obtain ⟨u, hu, hudata, huheld⟩ := s'.step_release_some event.keysym hk'
      have hdown : u.held event.keycode = some (event.keysym, true) := by
        rw [huheld, update_of_ne hne.symm, hevent]
      have hgone : event.keysym ∉ u.data.suppressedKeys := by
        rw [hudata]
        exact notMem_erase _ _
      obtain ⟨t, ht, hbroken⟩ := not_along_of_shared hdown hgone
      refine ⟨[.key (release k event.keysym), .key (release event.keycode event.keysym)], t, ?_, ?_⟩
      · exact exec_cons_eq_some.mpr ⟨s', h, exec_cons_eq_some.mpr ⟨u, hu, ht⟩⟩
      · intro hall
        exact hbroken ((hall s' h).2 u hu).2
    | true =>
      obtain ⟨keysym, blocked, hdown, hs'⟩ := step_release hreleased h
      simp only [KeysymsApart, hreleased, hdown] at hC
      by_cases hsupp : decide (event.keysym ∈ s.data.suppressedKeys) = blocked
      · cases blocked with
        | false => exact absurd (of_decide_eq_false hsupp) hC
        | true =>
          -- The keysym is that of another key, which will not find it any more.
          obtain ⟨k, hk⟩ := (hs.suppressed _).mp (of_decide_eq_true hsupp)
          have hne : k ≠ event.keycode := by
            rintro rfl
            rw [hdown, some.injEq, Prod.mk.injEq] at hk
            exact hC hk.1.symm
          have hk' : s'.held k = some (event.keysym, true) := by
            rw [hs']
            show update s.held event.keycode none k = _
            rw [update_of_ne hne, hk]
          have hgone : event.keysym ∉ s'.data.suppressedKeys := by
            rw [hs']
            show event.keysym ∉ (s.data.processKey event).1.suppressedKeys
            rw [(s.data.processKey_release hreleased).2]
            exact notMem_erase _ _
          obtain ⟨t, ht, hbroken⟩ := not_along_of_shared hk' hgone
          refine ⟨[.key (release k event.keysym)], t, exec_cons_eq_some.mpr ⟨s', h, ht⟩, ?_⟩
          intro hall
          exact hbroken (hall s' h).2
      · refine ⟨[], s', exec_cons_eq_some.mpr ⟨s', h, rfl⟩, not_along_of_step h ?_⟩
        exact not_releasedAsPressed hreleased hdown hsupp
  | _ => exact absurd trivial hC

/-- **Accessibility grabs block in pairs exactly as long as suppressed keysyms are kept apart.**
In a run whose steps all meet the condition, every release gets the verdict of its press and
nothing is suppressed while no key is down; after such a run, a step that does not meet it can be
followed by releases of which one does not get the verdict of its press. -/
theorem paired_iff (es : List (Event Name)) (hC : Along step KeysymsApart start es) :
    start.BlocksInPairs es ∧
      ∀ s e s', exec step start es = some s → s.step e = some s' → ¬ s.KeysymsApart e →
        ∃ fs t, exec step start (es ++ e :: fs) = some t ∧ ¬ start.BlocksInPairs (es ++ e :: fs) := by
  refine ⟨blocksInPairs_of_along start_inv hC, fun s e s' hs hstep hn => ?_⟩
  have hinv : s.Inv :=
    along_invariant (fun _ _ _ hu hCu hstep => (step_inv hu hCu hstep).1) start_inv hC hs
  obtain ⟨fs, t, ht, hbroken⟩ := exists_unpaired hinv hn hstep
  refine ⟨fs, t, exec_append_eq_some.mpr ⟨s, hs, ht⟩, fun hpairs => ?_⟩
  exact hbroken (hpairs.1.drop hs)

/-- A screen reader grabs the keyboard while Shift and A are pressed and released. -/
theorem paired_iff_grabbed :
    (start : Keyboard ℕ).BlocksInPairs [.grabKeyboard (some 1),
      .key { keycode := 50, released := false, mods := 0, keysym := 65505, time := 10,
             repeatDelay := 600 },
      .key { keycode := 38, released := false, mods := 1, keysym := 65, time := 20,
             repeatDelay := 600 },
      .key (release 38 65), .key (release 50 65505)] := by
  refine (paired_iff _ ?_).1
  intro s₁ h₁
  obtain rfl := some.inj h₁
  refine ⟨trivial, fun s₂ h₂ => ?_⟩
  obtain rfl := some.inj h₂
  refine ⟨fun hmem => absurd hmem (by decide +kernel), fun s₃ h₃ => ?_⟩
  obtain rfl := some.inj h₃
  refine ⟨fun hmem => absurd hmem (by decide +kernel), fun s₄ h₄ => ?_⟩
  obtain rfl := some.inj h₄
  refine ⟨rfl, fun s₅ h₅ => ?_⟩
  exact ⟨rfl, trivial⟩

/-- With Shift released first, A comes up under another keysym than it went down with. -/
theorem not_blocksInPairs :
    ¬ ∀ es : List (Event ℕ), (start : Keyboard ℕ).BlocksInPairs es := by
  intro h
  have hall := (h [.grabKeyboard (some 1),
      .key { keycode := 50, released := false, mods := 0, keysym := 65505, time := 10,
             repeatDelay := 600 },
      .key { keycode := 38, released := false, mods := 1, keysym := 65, time := 20,
             repeatDelay := 600 },
      .key (release 50 65505), .key (release 38 97)]).1
  have hlast := ((((hall _ rfl).2 _ rfl).2 _ rfl).2 _ rfl).2
  have hverdict := (hlast _ rfl).1 rfl 65 true (by decide +kernel)
  revert hverdict
  decide +kernel

end Keyboard

end Tiri.Dbus
