import Mathlib.Data.Finset.Basic
import Tiri.Lib.Run

/-!
# Pointer buttons

`on_pointer_button` of `input/mod.rs` with the pointer grabs of `input/`, over Smithay's pointer: a
button goes to the surface that has the pointer focus, unless the grab keeps it, and a press without
a grab starts a click grab, which holds the focus until no button is pressed.

Results:
* `inv_step`: as long as no surface has the focus, outside of a click, while a button is held whose
  press it did not get, the surface with the focus got the presses of all buttons that are held;
* `releases_paired`: a release then goes only to the surface that got the press.
-/

namespace Tiri.PointerButton

open Option Function Finset

variable {Surface : Type}

/-! ## Smithay's pointer -/

/-- The pointer grab: none, Smithay's own for clicks, drag-and-drop and popups, and those of
`input/`.  The pick grabs for windows and for colors are alike. -/
inductive Grab (Surface : Type)
  | none
  | click (focus : Option Surface)
  | spatialMovement
  | move (button : ℕ)
  | resize
  | pick
  | dnd
  | popup (owns : Surface → Bool)

namespace Grab

def isGrabbed : Grab Surface → Bool
  | none => false
  | _ => true

def isDnd : Grab Surface → Bool
  | dnd => true
  | _ => false

/-- The grabs that are set with `Focus::Clear`; drag-and-drop and popups keep the focus. -/
def clears : Grab Surface → Bool
  | dnd | popup _ => false
  | _ => true

end Grab

/-- The pointer and the buttons. -/
structure Pointer (Surface : Type) where
  /-- `current_focus`. -/
  focus : Option Surface
  grab : Grab Surface
  /-- `current_pressed`. -/
  pressed : Finset ℕ
  suppressedButtons : Finset ℕ
  /-- The buttons that are held down. -/
  down : Finset ℕ
  /-- The surfaces that got the last presses of the buttons. -/
  given : ℕ → Option Surface

/-- `BTN_LEFT`. -/
def left : ℕ := 0x110

/-- `BTN_RIGHT`. -/
def right : ℕ := 0x111

/-- `BTN_MIDDLE`. -/
def middle : ℕ := 0x112

/-- What `on_pointer_button` finds: the user interfaces that are open, whether a bind is configured,
what is under the pointer, and what becomes of a move or resize. -/
structure Context (Surface : Type) where
  mruOpen : Bool
  bindFound : Bool
  overviewOpen : Bool
  modDown : Bool
  workspaceUnder : Bool
  outputWorkspace : Bool
  windowUnder : Bool
  moveGrab : Bool
  resizeEdges : Bool
  doubleClick : Bool
  resizeBegins : Bool
  /-- The surface under the pointer, if the contents there have changed. -/
  contents : Option (Option Surface)
  resizeOngoing : Bool
  togglesFloating : Bool
  popupEnds : Bool

namespace Pointer

variable (p : Pointer Surface)

/-- `unset_grab`: the focus comes back at the next motion. -/
def unsetGrab : Pointer Surface := { p with grab := .none }

def setGrab (grab : Grab Surface) : Pointer Surface :=
  { p with grab, focus := if grab.clears then none else p.focus }

/-- `motion`, by the grab. -/
def motion (surface : Option Surface) (resizeOngoing : Bool) : Pointer Surface :=
  match p.grab with
  | .none => { p with focus := surface }
  | .click focus => { p with focus }
  | .spatialMovement | .move _ | .pick | .dnd => { p with focus := none }
  | .resize =>
    -- a resize that is no longer ongoing lets the grab go
    let p := { p with focus := none }
    if resizeOngoing then p else p.unsetGrab
  | .popup owns => { p with focus := surface.filter owns }

/-- `frame`, by the grab: a gesture that is no longer ongoing lets the grab go. -/
def frame (ongoing : Bool) : Pointer Surface :=
  match p.grab with
  | .spatialMovement | .move _ => if ongoing then p else p.unsetGrab
  | _ => p

/-- The grab is let go when no button is pressed. -/
def unsetIfReleased : Pointer Surface :=
  if p.pressed = ∅ then p.unsetGrab else p

/-- `button`, by the grab, and the surface that gets the event. -/
def button (b : ℕ) (isPress : Bool) (ctx : Context Surface) : Pointer Surface × Option Surface :=
  let p := { p with pressed := if isPress then insert b p.pressed else p.pressed.erase b }
  match p.grab with
  | .none => (if isPress then { p with grab := .click p.focus } else p, p.focus)
  | .click _ | .spatialMovement | .resize => (p.unsetIfReleased, p.focus)
  | .move start =>
    let toggleFloatingButton := if start = left then right else left
    if start ∉ p.pressed then (p.unsetGrab, p.focus)
    else if isPress && b = toggleFloatingButton && !ctx.togglesFloating then
      (p.unsetGrab, p.focus)
    else (p, p.focus)
  | .pick =>
    if isPress then
      -- we're handling this press, don't send the release to the window
      ({ p.unsetGrab with suppressedButtons := insert b p.suppressedButtons }, none)
    else (p, none)
  | .dnd => (p.unsetIfReleased, none)
  | .popup _ => (if ctx.popupEnds then p.unsetGrab else p, p.focus)

/-! ## The compositor -/

/-- `suppressed_buttons.insert`. -/
def suppress (b : ℕ) : Pointer Surface :=
  { p with suppressedButtons := insert b p.suppressedButtons }

/-- A second press of the right button within a short time resizes the window at once. -/
def quickResizes (b : ℕ) (ctx : Context Surface) : Bool :=
  !(ctx.mruOpen && b = left) && !ctx.bindFound && !(ctx.overviewOpen && ctx.workspaceUnder) &&
    ctx.windowUnder && b = right && !p.grab.isGrabbed && ctx.modDown && ctx.resizeEdges &&
    ctx.doubleClick

/-- What a press does before it is forwarded, and whether it is. -/
def handlePress (b : ℕ) (ctx : Context Surface) : Pointer Surface × Bool :=
  if ctx.mruOpen && b = left then (p.suppress b, false)
  else if ctx.bindFound then (p.suppress b, false)
  else if ctx.overviewOpen && !p.grab.isGrabbed && b = right && ctx.workspaceUnder then
    (p.setGrab .spatialMovement, false)
  else if b = middle && !p.grab.isGrabbed && ctx.modDown && ctx.outputWorkspace then
    (p.setGrab .spatialMovement, false)
  else if ctx.windowUnder then
    if b = left && !p.grab.isGrabbed then
      (if (ctx.overviewOpen || ctx.modDown) && ctx.moveGrab then p.setGrab (.move b) else p, true)
    else if b = right && !p.grab.isGrabbed && ctx.modDown then
      if ctx.resizeEdges then
        if ctx.doubleClick then (p, false)
        else (if ctx.resizeBegins then p.setGrab .resize else p, true)
      else (p, true)
    else (p, true)
  else (p, true)

/-- What happens before `pointer.button`, and whether that is reached. -/
def beforeButton (b : ℕ) (isPress : Bool) (ctx : Context Surface) : Pointer Surface × Bool :=
  if isPress then p.handlePress b ctx else (p, true)

/-- `update_pointer_contents`. -/
def updateContents (ctx : Context Surface) : Pointer Surface :=
  match ctx.contents with
  | none => p
  | some surface => p.motion surface ctx.resizeOngoing

/-- `on_pointer_button`, and the surface that gets the event. -/
def onPointerButton (b : ℕ) (isPress : Bool) (ctx : Context Surface) :
    Pointer Surface × Option Surface :=
  -- ignore release events for mouse clicks that triggered a bind
  if b ∈ p.suppressedButtons then
    ({ p with suppressedButtons := p.suppressedButtons.erase b }, none)
  else
    let (p, forwards) := p.beforeButton b isPress ctx
    if forwards then (p.updateContents ctx).button b isPress ctx else (p, none)

end Pointer

/-! ## Runs -/

/-- What happens to the pointer. -/
inductive Event (Surface : Type)
  | button (b : ℕ) (isPress : Bool) (ctx : Context Surface)
  | motion (surface : Option Surface) (resizeOngoing : Bool)
  | frame (ongoing : Bool)
  | setGrab (grab : Grab Surface)
  | unsetGrab

namespace Pointer

/-- Nothing is pressed. -/
def start : Pointer Surface := ⟨none, .none, ∅, ∅, ∅, fun _ => none⟩

variable (p : Pointer Surface)

/-- The presses and releases of a button alternate. -/
def Alternates (b : ℕ) (isPress : Bool) : Prop :=
  if isPress then b ∉ p.down else b ∈ p.down

instance (p : Pointer Surface) (b : ℕ) (isPress : Bool) : Decidable (p.Alternates b isPress) :=
  inferInstanceAs (Decidable (if isPress then b ∉ p.down else b ∈ p.down))

/-- Note who got a press, and which buttons are held. -/
def note (b : ℕ) (isPress : Bool) (surface : Option Surface) : Pointer Surface :=
  if isPress then
    { p with down := insert b p.down, given := update p.given b surface }
  else { p with down := p.down.erase b }

/-- What an event does, where it can happen.  The click grab is set by Smithay only. -/
def step : Event Surface → Option (Pointer Surface)
  | .button b isPress ctx =>
    if p.Alternates b isPress then
      let (q, surface) := p.onPointerButton b isPress ctx
      some (q.note b isPress surface)
    else none
  | .motion surface resizeOngoing => some (p.motion surface resizeOngoing)
  | .frame ongoing => some (p.frame ongoing)
  | .setGrab (.click _) => none
  | .setGrab grab => some (p.setGrab grab)
  | .unsetGrab => some p.unsetGrab

/-- A release goes only to the surface that got the press. -/
def Paired : Event Surface → Prop
  | .button b false ctx =>
    ∀ surface ∈ (p.onPointerButton b false ctx).2, p.given b = some surface
  | _ => True

/-- The surface got the presses of the buttons that are held and not suppressed. -/
def GotPresses (surface : Surface) : Prop :=
  ∀ b ∈ p.down, b ∉ p.suppressedButtons → p.given b = some surface

/-- A motion outside of a click gives the focus only to a surface that got the presses. -/
def Allows (surface : Option Surface) : Prop :=
  match p.grab with
  | .none => ∀ s ∈ surface, p.GotPresses s
  | .popup owns => ∀ s ∈ surface.filter owns, p.GotPresses s
  | _ => True

/-- No surface gets or keeps the focus, outside of a click, while a button is held whose press it
did not get: motions do not give it the focus, and it does not have it when a quick resize, or a
drag-and-drop, keeps a press. -/
def Clean : Event Surface → Prop
  | .button b isPress ctx =>
    b ∉ p.suppressedButtons →
      (isPress = true → p.quickResizes b ctx = true → p.focus = none) ∧
      let (q, forwards) := p.beforeButton b isPress ctx
      forwards = true → (∀ surface ∈ ctx.contents, q.Allows surface) ∧
        (isPress = true → (q.updateContents ctx).grab.isDnd = true →
          (q.updateContents ctx).focus = none)
  | .motion surface _ => p.Allows surface
  | _ => True

section
variable [DecidableEq Surface]

instance (p : Pointer Surface) (e : Event Surface) : Decidable (p.Paired e) :=
  match e with
  | .button b false ctx =>
    inferInstanceAs
      (Decidable (∀ surface ∈ (p.onPointerButton b false ctx).2, p.given b = some surface))
  | .button _ true _ | .motion _ _ | .frame _ | .setGrab _ | .unsetGrab => isTrue trivial

instance (p : Pointer Surface) (surface : Surface) : Decidable (p.GotPresses surface) :=
  inferInstanceAs
    (Decidable (∀ b ∈ p.down, b ∉ p.suppressedButtons → p.given b = some surface))

instance (p : Pointer Surface) (surface : Option Surface) : Decidable (p.Allows surface) := by
  unfold Allows
  split <;> infer_instance

instance (p : Pointer Surface) (e : Event Surface) : Decidable (p.Clean e) := by
  unfold Clean
  split <;> infer_instance

end

/-! ## What holds between the events -/

/-- The surface with the focus got the presses; a click grab holds the focus where it is. -/
structure Inv (p : Pointer Surface) : Prop where
  focus : ∀ surface ∈ p.focus, p.GotPresses surface
  click : ∀ focus, p.grab = .click focus → p.focus = focus
  suppressed : p.suppressedButtons ⊆ p.down

theorem inv_start : (start : Pointer Surface).Inv where
  focus _ h := nomatch h
  click _ h := nomatch h
  suppressed := Finset.Subset.refl _

@[simp] theorem unsetIfReleased_focus : p.unsetIfReleased.focus = p.focus := by
  unfold unsetIfReleased
  split <;> rfl

@[simp] theorem unsetIfReleased_suppressed :
    p.unsetIfReleased.suppressedButtons = p.suppressedButtons := by
  unfold unsetIfReleased
  split <;> rfl

@[simp] theorem unsetIfReleased_down : p.unsetIfReleased.down = p.down := by
  unfold unsetIfReleased
  split <;> rfl

@[simp] theorem unsetIfReleased_given : p.unsetIfReleased.given = p.given := by
  unfold unsetIfReleased
  split <;> rfl

variable {p q : Pointer Surface} {ctx : Context Surface} {b : ℕ}

/-- The grab goes, or stays. -/
theorem unsetIfReleased_click {focus : Option Surface} (h : p.unsetIfReleased.grab = .click focus) :
    p.grab = .click focus := by
  unfold unsetIfReleased at h
  split at h
  · exact nomatch h
  · exact h

/-- What stays when neither the buttons nor who got them change. -/
structure SameButtons (p q : Pointer Surface) : Prop where
  down : q.down = p.down
  given : q.given = p.given
  suppressed : q.suppressedButtons = p.suppressedButtons

theorem SameButtons.gotPresses (h : SameButtons p q) {surface : Surface} (hp : p.GotPresses surface) :
    q.GotPresses surface := by
  intro b hb hsuppressed
  rw [h.down] at hb
  rw [h.suppressed] at hsuppressed
  rw [h.given]
  exact hp b hb hsuppressed

theorem motion_sameButtons (p : Pointer Surface) (surface : Option Surface) (ongoing : Bool) :
    SameButtons p (p.motion surface ongoing) := by
  unfold motion
  cases p.grab with
  | resize => cases ongoing <;> exact ⟨rfl, rfl, rfl⟩
  | none | click _ | spatialMovement | move _ | pick | dnd | popup _ => exact ⟨rfl, rfl, rfl⟩

section

variable (hp : p.Inv)
include hp

/-- Without the focus, the surface with the focus got everything. -/
theorem inv_of_focus_none (hsame : SameButtons p q) (hfocus : q.focus = none)
    (hgrab : ∀ focus, q.grab ≠ .click focus) : q.Inv where
  focus := by
    intro surface hsurface
    rw [hfocus] at hsurface
    exact nomatch hsurface
  click := fun focus hclick => absurd hclick (hgrab focus)
  suppressed := by
    rw [hsame.suppressed, hsame.down]
    exact hp.suppressed

/-- The focus stays and the grab is not a click's. -/
theorem inv_of_focus_same (hsame : SameButtons p q) (hfocus : q.focus = p.focus)
    (hgrab : q.grab = p.grab ∨ ∀ focus, q.grab ≠ .click focus) : q.Inv where
  focus := by
    intro surface hsurface
    rw [hfocus] at hsurface
    exact hsame.gotPresses (hp.focus surface hsurface)
  click := by
    intro focus hclick
    rcases hgrab with hgrab | hgrab
    · rw [hfocus]
      exact hp.click focus (hgrab ▸ hclick)
    · exact absurd hclick (hgrab focus)
  suppressed := by
    rw [hsame.suppressed, hsame.down]
    exact hp.suppressed

theorem motion_inv {surface : Option Surface} (hallows : p.Allows surface) (ongoing : Bool) :
    (p.motion surface ongoing).Inv := by
  have hsame : SameButtons p (p.motion surface ongoing) := motion_sameButtons p surface ongoing
  cases hgrab : p.grab with
  | none | popup =>
    simp only [Allows, hgrab] at hallows
    rw [motion, hgrab]
    refine ⟨hallows, ?_, hp.suppressed⟩
    intro focus hclick
    exact nomatch hclick
  | click focus =>
    have hfocus : (p.motion surface ongoing).focus = p.focus := by
      simp only [motion, hgrab]
      exact (hp.click focus hgrab).symm
    refine inv_of_focus_same hp hsame hfocus (.inl ?_)
    simp [motion, hgrab]
  | resize =>
    refine inv_of_focus_none hp hsame ?_ ?_
    · cases ongoing <;> simp [motion, hgrab, unsetGrab]
    · cases ongoing <;> simp [motion, hgrab, unsetGrab]
  | spatialMovement | move _ | pick | dnd =>
    refine inv_of_focus_none hp hsame ?_ ?_
    · simp [motion, hgrab]
    · simp [motion, hgrab]

theorem updateContents_inv (hallows : ∀ surface ∈ ctx.contents, p.Allows surface) :
    (p.updateContents ctx).Inv := by
  unfold updateContents
  cases hcontents : ctx.contents with
  | none => exact hp
  | some surface => exact motion_inv hp (hallows surface hcontents) ctx.resizeOngoing

omit hp in
theorem updateContents_sameButtons (p : Pointer Surface) (ctx : Context Surface) :
    SameButtons p (p.updateContents ctx) := by
  unfold updateContents
  cases ctx.contents with
  | none => exact ⟨rfl, rfl, rfl⟩
  | some surface => exact motion_sameButtons p surface ctx.resizeOngoing

theorem unsetGrab_inv : p.unsetGrab.Inv :=
  inv_of_focus_same hp ⟨rfl, rfl, rfl⟩ rfl (.inr fun _ h => nomatch h)

theorem frame_inv (ongoing : Bool) : (p.frame ongoing).Inv := by
  unfold frame
  split
  case h_3 => exact hp
  all_goals
    cases ongoing
    · exact unsetGrab_inv hp
    · exact hp

theorem setGrab_inv {grab : Grab Surface} (hgrab : ∀ focus, grab ≠ .click focus) :
    (p.setGrab grab).Inv := by
  cases hclears : grab.clears with
  | true =>
    refine inv_of_focus_none hp ⟨rfl, rfl, rfl⟩ ?_ hgrab
    simp [setGrab, hclears]
  | false =>
    refine inv_of_focus_same hp ⟨rfl, rfl, rfl⟩ ?_ (.inr hgrab)
    simp [setGrab, hclears]

end

/-! ## The buttons -/

/-- A press is suppressed, starts a grab that takes the focus, resizes the window at once, or is
only forwarded. -/
theorem handlePress_cases (p : Pointer Surface) (b : ℕ) (ctx : Context Surface) :
    p.handlePress b ctx = (p.suppress b, false) ∨
      (∃ grab forwards, grab.clears = true ∧ (∀ focus, grab ≠ .click focus) ∧
        p.handlePress b ctx = (p.setGrab grab, forwards)) ∨
      (p.quickResizes b ctx = true ∧ p.handlePress b ctx = (p, false)) ∨
      p.handlePress b ctx = (p, true) := by
  let P : Pointer Surface × Bool → Prop := fun r =>
    r = (p.suppress b, false) ∨
      (∃ grab forwards, grab.clears = true ∧ (∀ focus, grab ≠ .click focus) ∧
        r = (p.setGrab grab, forwards)) ∨
      (p.quickResizes b ctx = true ∧ r = (p, false)) ∨ r = (p, true)
  have hsuppressed : P (p.suppress b, false) := .inl rfl
  have hgrabs : ∀ (grab : Grab Surface) (forwards : Bool), grab.clears = true →
      (∀ focus, grab ≠ .click focus) → P (p.setGrab grab, forwards) :=
    fun grab forwards hclears hclick => .inr (.inl ⟨grab, forwards, hclears, hclick, rfl⟩)
  have hforwarded : P (p, true) := .inr (.inr (.inr rfl))
  change P (p.handlePress b ctx)
  refine iteInduction (fun _ => hsuppressed) fun _ => iteInduction (fun _ => hsuppressed) fun hbind =>
    iteInduction (fun _ => hgrabs _ _ rfl fun _ => nofun) fun hoverview =>
    iteInduction (fun _ => hgrabs _ _ rfl fun _ => nofun) fun _ =>
    iteInduction (fun hunder => ?_) fun _ => hforwarded
  refine iteInduction (fun _ => ?_) fun _ => iteInduction (fun hright => ?_) fun _ => hforwarded
  · split_ifs
    · exact hgrabs _ _ rfl fun _ => nofun
    · exact hforwarded
  refine iteInduction (fun hedges => iteInduction (fun hdouble => ?_) fun _ => ?_) fun _ => hforwarded
  · refine .inr (.inr (.inl ⟨?_, rfl⟩))
    simp only [Bool.and_eq_true, decide_eq_true_eq, Bool.not_eq_true'] at hright
    obtain ⟨⟨hb, hgrabbed⟩, hmod⟩ := hright
    have hleft : ¬right = left := by decide
    have hworkspace : ctx.overviewOpen = false ∨ ctx.workspaceUnder = false := by
      have hnot : ctx.overviewOpen = true → ctx.workspaceUnder = false := by
        simpa [hgrabbed, hb] using hoverview
      cases hoverviewOpen : ctx.overviewOpen with
      | false => exact .inl rfl
      | true => exact .inr (hnot hoverviewOpen)
    simp [quickResizes, hbind, hunder, hedges, hdouble, hb, hgrabbed, hmod, hleft, hworkspace]
  · split_ifs
    · exact hgrabs _ _ rfl fun _ => nofun
    · exact hforwarded

/-- A button keeps the focus and who got what; only a pick grab suppresses. -/
theorem button_same (p : Pointer Surface) (b : ℕ) (isPress : Bool) (ctx : Context Surface) :
    (p.button b isPress ctx).1.focus = p.focus ∧ (p.button b isPress ctx).1.down = p.down ∧
      (p.button b isPress ctx).1.given = p.given := by
  cases hgrab : p.grab with
  | pick => cases isPress <;> simp [button, hgrab, unsetGrab]
  | none => cases isPress <;> simp [button, hgrab]
  | click _ | spatialMovement | resize | dnd => simp [button, hgrab]
  | popup _ => cases hends : ctx.popupEnds <;> simp [button, hgrab, hends, unsetGrab]
  | move start =>
    simp only [button, hgrab]
    split_ifs <;> simp [unsetGrab]

theorem button_suppressed_release (p : Pointer Surface) (b : ℕ) (ctx : Context Surface) :
    (p.button b false ctx).1.suppressedButtons = p.suppressedButtons := by
  cases hgrab : p.grab with
  | none | click _ | spatialMovement | resize | dnd | pick => simp [button, hgrab]
  | popup _ => cases hends : ctx.popupEnds <;> simp [button, hgrab, hends, unsetGrab]
  | move start =>
    simp only [button, hgrab]
    split_ifs <;> simp [unsetGrab]

/-- A press goes to the surface with the focus, unless its release is suppressed or a drag-and-drop
keeps it. -/
theorem button_press (p : Pointer Surface) (b : ℕ) (ctx : Context Surface) :
    ((p.button b true ctx).1.suppressedButtons = insert b p.suppressedButtons) ∨
      (p.button b true ctx).1.suppressedButtons = p.suppressedButtons ∧
        (p.grab.isDnd = true ∨ (p.button b true ctx).2 = p.focus) := by
  cases hgrab : p.grab with
  | pick => exact .inl (by simp [button, hgrab])
  | none | click | spatialMovement | resize | dnd => exact .inr (by simp [button, hgrab, Grab.isDnd])
  | popup _ =>
    refine .inr ?_
    cases hends : ctx.popupEnds <;> simp [button, hgrab, hends, unsetGrab]
  | move start =>
    refine .inr ?_
    simp only [button, hgrab]
    split_ifs <;> simp [unsetGrab]

section

variable (hp : p.Inv)
include hp

/-- A click grab that is there after a button holds the focus. -/
theorem button_click (b : ℕ) (isPress : Bool) (ctx : Context Surface) {focus : Option Surface}
    (hclick : (p.button b isPress ctx).1.grab = .click focus) : p.focus = focus := by
  cases hgrab : p.grab with
  | none =>
    cases isPress
    · simp [button, hgrab] at hclick
    · simpa [button, hgrab] using hclick
  | click held =>
    simp only [button, hgrab] at hclick
    have hstays : Grab.click held = .click focus := unsetIfReleased_click hclick
    rw [hp.click held hgrab]
    exact Grab.click.inj hstays
  | pick => cases isPress <;> simp [button, hgrab, unsetGrab] at hclick
  | spatialMovement | resize | dnd =>
    simp only [button, hgrab] at hclick
    exact nomatch unsetIfReleased_click hclick
  | popup _ => cases hends : ctx.popupEnds <;> simp [button, hgrab, hends, unsetGrab] at hclick
  | move start =>
    simp only [button, hgrab] at hclick
    split_ifs at hclick <;> simp [unsetGrab] at hclick

/-! ## Steps -/

/-- A press is noted: the focus stays where it was, and the press went there or is suppressed. -/
theorem note_press_inv {surface : Option Surface} (hfocus : q.focus = p.focus)
    (hdown : q.down = p.down) (hgiven : q.given = p.given)
    (hsuppressed : q.suppressedButtons = insert b p.suppressedButtons ∨
      q.suppressedButtons = p.suppressedButtons ∧ (p.focus = none ∨ surface = p.focus))
    (hclick : ∀ focus, q.grab = .click focus → p.focus = focus) : (q.note b true surface).Inv := by
  refine ⟨?_, ?_, ?_⟩
  · intro s hs
    change q.focus = some s at hs
    rw [hfocus] at hs
    intro b' hb' hb's
    change b' ∈ insert b q.down at hb'
    change b' ∉ q.suppressedButtons at hb's
    change update q.given b surface b' = some s
    rw [hdown, mem_insert] at hb'
    rw [hgiven]
    by_cases hbb : b' = b
    · subst hbb
      rw [update_self]
      rcases hsuppressed with hsuppressed | ⟨-, hnone | hsurface⟩
      · rw [hsuppressed] at hb's
        exact absurd (mem_insert_self b' _) hb's
      · rw [hnone] at hs
        exact nomatch hs
      · rw [hsurface, hs]
    · rw [update_of_ne hbb]
      refine hp.focus s hs b' (hb'.resolve_left hbb) fun hold => hb's ?_
      rcases hsuppressed with hsuppressed | ⟨hsuppressed, -⟩
      · exact hsuppressed ▸ mem_insert_of_mem hold
      · exact hsuppressed ▸ hold
  · intro focus hgrab
    exact hfocus.trans (hclick focus hgrab)
  · change q.suppressedButtons ⊆ insert b q.down
    rw [hdown]
    rcases hsuppressed with hsuppressed | ⟨hsuppressed, -⟩
    · rw [hsuppressed]
      exact insert_subset_insert b hp.suppressed
    · rw [hsuppressed]
      exact hp.suppressed.trans (subset_insert b p.down)

/-- A release is noted. -/
theorem note_release_inv (hfocus : q.focus = p.focus) (hdown : q.down = p.down)
    (hgiven : q.given = p.given) (hsuppressed : q.suppressedButtons = p.suppressedButtons.erase b)
    (hclick : ∀ focus, q.grab = .click focus → p.focus = focus) (surface : Option Surface) :
    (q.note b false surface).Inv := by
  refine ⟨?_, ?_, ?_⟩
  · intro s hs
    change q.focus = some s at hs
    rw [hfocus] at hs
    intro b' hb' hb's
    change b' ∈ q.down.erase b at hb'
    change b' ∉ q.suppressedButtons at hb's
    change q.given b' = some s
    rw [hdown, mem_erase] at hb'
    rw [hgiven]
    refine hp.focus s hs b' hb'.2 fun hold => hb's ?_
    rw [hsuppressed, mem_erase]
    exact ⟨hb'.1, hold⟩
  · intro focus hgrab
    exact hfocus.trans (hclick focus hgrab)
  · change q.suppressedButtons ⊆ q.down.erase b
    rw [hdown, hsuppressed]
    exact erase_subset_erase b hp.suppressed

/-- What a press that is not forwarded leaves to note. -/
theorem press_kept_inv (hquick : p.quickResizes b ctx = true → p.focus = none)
    (hkept : (p.handlePress b ctx).2 = false) : ((p.handlePress b ctx).1.note b true none).Inv := by
  rcases p.handlePress_cases b ctx with h | ⟨grab, forwards, hclears, hclick, h⟩ | ⟨hquicks, h⟩ | h
  · rw [h]
    exact note_press_inv hp rfl rfl rfl (.inl rfl) hp.click
  · rw [h]
    have hfocus : (p.setGrab grab).focus = none := by simp [setGrab, hclears]
    exact note_press_inv (setGrab_inv hp hclick) rfl rfl rfl (.inr ⟨rfl, .inl hfocus⟩)
      fun focus hgrab => absurd hgrab (hclick focus)
  · rw [h]
    exact note_press_inv hp rfl rfl rfl (.inr ⟨rfl, .inl (hquick hquicks)⟩) hp.click
  · rw [h] at hkept
    exact nomatch hkept

/-- What is forwarded is forwarded with the buttons as they were. -/
theorem handlePress_forwards (hforwards : (p.handlePress b ctx).2 = true) :
    (p.handlePress b ctx).1.Inv ∧ SameButtons p (p.handlePress b ctx).1 := by
  rcases p.handlePress_cases b ctx with h | ⟨grab, forwards, -, hclick, h⟩ | ⟨-, h⟩ | h
  · rw [h] at hforwards
    exact nomatch hforwards
  · rw [h]
    exact ⟨setGrab_inv hp hclick, rfl, rfl, rfl⟩
  · rw [h] at hforwards
    exact nomatch hforwards
  · rw [h]
    exact ⟨hp, rfl, rfl, rfl⟩

/-- A press that reaches the pointer. -/
theorem button_press_inv (b : ℕ) (ctx : Context Surface)
    (hdnd : p.grab.isDnd = true → p.focus = none) :
    ((p.button b true ctx).1.note b true (p.button b true ctx).2).Inv := by
  obtain ⟨hfocus, hdown, hgiven⟩ := p.button_same b true ctx
  refine note_press_inv hp hfocus hdown hgiven ?_ fun focus => button_click hp b true ctx
  rcases p.button_press b ctx with hsuppressed | ⟨hsuppressed, hisDnd | hsurface⟩
  · exact .inl hsuppressed
  · exact .inr ⟨hsuppressed, .inl (hdnd hisDnd)⟩
  · exact .inr ⟨hsuppressed, .inr hsurface⟩

/-- A release that reaches the pointer. -/
theorem button_release_inv (hb : b ∉ p.suppressedButtons) (ctx : Context Surface) :
    ((p.button b false ctx).1.note b false (p.button b false ctx).2).Inv := by
  obtain ⟨hfocus, hdown, hgiven⟩ := p.button_same b false ctx
  refine note_release_inv hp hfocus hdown hgiven ?_ (fun focus => button_click hp b false ctx) _
  rw [button_suppressed_release, erase_eq_of_notMem hb]

/-- A press keeps the invariant. -/
theorem press_inv (hb : b ∉ p.down) (hclean : p.Clean (.button b true ctx)) :
    ((p.onPointerButton b true ctx).1.note b true (p.onPointerButton b true ctx).2).Inv := by
  have hnot : b ∉ p.suppressedButtons := fun h => hb (hp.suppressed h)
  obtain ⟨hquick, hforward⟩ := hclean hnot
  simp only [onPointerButton, if_neg hnot, beforeButton, if_true] at hforward ⊢
  cases hforwards : (p.handlePress b ctx).2 with
  | false => exact press_kept_inv hp (hquick rfl) hforwards
  | true =>
    obtain ⟨hallows, hdnd⟩ := hforward hforwards
    have hq : (p.handlePress b ctx).1.Inv := (handlePress_forwards hp hforwards).1
    exact button_press_inv (updateContents_inv hq hallows) b ctx (hdnd trivial)

/-- A release keeps the invariant. -/
theorem release_inv (hclean : p.Clean (.button b false ctx)) :
    ((p.onPointerButton b false ctx).1.note b false (p.onPointerButton b false ctx).2).Inv := by
  by_cases hb : b ∈ p.suppressedButtons
  · rw [onPointerButton, if_pos hb]
    exact note_release_inv (b := b)
      (q := { p with suppressedButtons := p.suppressedButtons.erase b })
      hp rfl rfl rfl rfl hp.click none
  · obtain ⟨-, hforward⟩ := hclean hb
    obtain ⟨hallows, -⟩ := hforward rfl
    have hsame : SameButtons p (p.updateContents ctx) := p.updateContents_sameButtons ctx
    have hb' : b ∉ (p.updateContents ctx).suppressedButtons := hsame.suppressed ▸ hb
    rw [onPointerButton, if_neg hb]
    exact button_release_inv (updateContents_inv hp hallows) hb' ctx

end

/-- As long as the focus stays clean, the surface with the focus got the presses. -/
theorem inv_step (p : Pointer Surface) (e : Event Surface) (q : Pointer Surface) (hp : p.Inv)
    (hclean : p.Clean e) (hstep : p.step e = some q) : q.Inv := by
  cases e with
  | button b isPress ctx =>
    obtain ⟨halternates, rfl⟩ := ite_some_none_eq_some.mp hstep
    cases isPress with
    | true => exact press_inv hp halternates hclean
    | false => exact release_inv hp hclean
  | motion surface ongoing =>
    obtain rfl := some.inj hstep
    exact motion_inv hp hclean ongoing
  | frame ongoing =>
    obtain rfl := some.inj hstep
    exact frame_inv hp ongoing
  | unsetGrab =>
    obtain rfl := some.inj hstep
    exact unsetGrab_inv hp
  | setGrab grab =>
    cases grab with
    | click _ => exact nomatch hstep
    | none | spatialMovement | move _ | resize | pick | dnd | popup _ =>
      obtain rfl := some.inj hstep
      exact setGrab_inv hp fun _ => nofun

/-- What a release is delivered to has the focus. -/
theorem button_release_delivered (p : Pointer Surface) (b : ℕ) (ctx : Context Surface) :
    ∀ surface ∈ (p.button b false ctx).2, p.focus = some surface := by
  intro surface hsurface
  cases hgrab : p.grab with
  | dnd | pick =>
    simp only [button, hgrab] at hsurface
    exact nomatch hsurface
  | none | click _ | spatialMovement | resize | popup _ =>
    simpa [button, hgrab] using hsurface
  | move start =>
    simp only [button, hgrab] at hsurface
    split_ifs at hsurface <;> exact hsurface

/-- With the invariant a release goes only to the surface that got the press. -/
theorem Inv.paired (hp : p.Inv) {e : Event Surface} (hclean : p.Clean e) (hstep : p.step e = some q) :
    p.Paired e := by
  cases e with
  | button b isPress ctx =>
    cases isPress with
    | true => trivial
    | false =>
      obtain ⟨hdown, -⟩ := ite_none_right_eq_some.mp hstep
      intro surface hsurface
      by_cases hb : b ∈ p.suppressedButtons
      · rw [onPointerButton, if_pos hb] at hsurface
        exact nomatch hsurface
      · rw [onPointerButton, if_neg hb] at hsurface
        obtain ⟨-, hforward⟩ := hclean hb
        obtain ⟨hallows, -⟩ := hforward rfl
        have hsame : SameButtons p (p.updateContents ctx) := p.updateContents_sameButtons ctx
        have hfocus : (p.updateContents ctx).focus = some surface :=
          button_release_delivered _ b ctx surface hsurface
        have hgot : (p.updateContents ctx).GotPresses surface :=
          (updateContents_inv hp hallows).focus surface hfocus
        have hgiven := hgot b (hsame.down ▸ hdown) (hsame.suppressed ▸ hb)
        rw [← hsame.given]
        exact hgiven
  | motion _ _ | frame _ | setGrab _ | unsetGrab => trivial

/-- In a run in which no surface gets or keeps the focus, outside of a click, while a button is
held whose press it did not get, every release goes only to the surface that got the press. -/
theorem releases_paired {es : List (Event Surface)} (hclean : Run.Along step Clean start es) :
    Run.Along step Paired start es := by
  refine Run.Along.of_invariant (J := Inv) inv_step ?_ inv_start hclean
  exact fun p e q hp hcleans hstep => hp.paired hcleans hstep

/-! ## A press that is lost -/

/-- Nothing is open and the super key is up; `contents` are those under the pointer. -/
def plain (contents : Option (Option ℕ)) : Context ℕ where
  mruOpen := false
  bindFound := false
  overviewOpen := false
  modDown := false
  workspaceUnder := true
  outputWorkspace := true
  windowUnder := true
  moveGrab := true
  resizeEdges := true
  doubleClick := false
  resizeBegins := true
  contents
  resizeOngoing := true
  togglesFloating := true
  popupEnds := false

/-- The pointer is over a window, Mod+right starts a resize and right goes up; then the super key
is up, left is clicked, and a bound button is pressed and released. -/
theorem releases_paired_clicks :
    Run.Along step Paired start
      [.motion (some 1) true, .button right true { plain none with modDown := true },
        .button right false (plain none), .motion (some 1) true,
        .button left true (plain none), .motion (some 2) true,
        .button left false (plain none), .motion (some 2) true,
        .button middle true { plain none with bindFound := true },
        .button middle false (plain none)] :=
  releases_paired (by decide +kernel)

/-- Mod+right is pressed twice over a window: the first press starts a resize, the second is taken
as a double click, which resizes at once; the second release goes to the window. -/
def doubleClicked : List (Event ℕ) :=
  [.motion (some 1) true, .button right true { plain none with modDown := true },
    .button right false (plain none), .motion (some 1) true,
    .button right true { plain none with modDown := true, doubleClick := true },
    .button right false { plain none with modDown := true }]

/-- The release after the quick resize goes to a surface that did not get the press. -/
theorem doubleClicked_unpaired : ¬Run.Along step Paired start doubleClicked := by
  decide +kernel

end Pointer

end Tiri.PointerButton
