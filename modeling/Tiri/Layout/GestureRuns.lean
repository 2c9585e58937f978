import Tiri.Layout.Gestures
import Tiri.Lib.Run

set_option linter.dupNamespace false

/-!
# Gestures end with their input

The inputs that move the layout, each begun, updated and ended in order: grabs of the pointer and
of touch, swipes and scrolling on the touchpad, drag-and-drop, interactive moves.  In between,
outputs come and go, windows close, and the layout does anything else that it does, which keeps
a gesture where it was or drops it.

An input finds an output under its location before it begins a gesture
(`on_pointer_motion`, line 2988, `compute_touch_location`, `output_under_cursor` of
`input/mod.rs`), so gestures begin only while outputs are connected.  Updates only move trackers,
and are left out.

Results:
* `inv_step`: what every careful step keeps;
* `gestures_end`: in careful runs, gestures end with their input, at most one is on, and nothing
  panics;
* `secondFinger_panics`: closing the window that is moved, and a second finger, panic;
* `replugged_leaves`: a gesture whose input ends while there are no outputs can stay.
-/

namespace Tiri.Layout.Gestures

open Option List Layout

/-- An input that has begun. -/
inductive Input (Id : Type)
  /-- A grab, or the touchpad in the overview, for the view of a workspace. -/
  | viewOffset (isTouchpad : Bool)
  /-- A grab, or the touchpad in the overview, for the switch between workspaces. -/
  | workspaceSwitch (isTouchpad : Bool)
  /-- Three fingers on the touchpad, for either. -/
  | swipe
  /-- A grab that moves a window. -/
  | interactiveMove (window : Id)
  | dnd
  deriving DecidableEq

/-- The layout, and its inputs. -/
structure World (Id : Type) where
  layout : Layout Id
  inputs : List (Input Id)
  /-- Whether `refresh` has run since an input last did anything. -/
  refreshed : Bool
  panicked : Bool

/-- What can happen; what geometry decides comes with the event. -/
inductive Event (Id : Type)
  | start (input : Input Id)
  | viewOffsetGestureBegin (output : Output) (workspaceIdx : Option ℕ) (isTouchpad : Bool)
  | workspaceSwitchGestureBegin (output : Output) (isTouchpad : Bool)
  | interactiveMoveBegin (window : Id) (output : Output)
  | interactiveMoveUpdate (window : Id) (crossed isFloating : Bool)
  /-- The other button, or a second finger, during a move. -/
  | toggleWindowFloating (window : Id)
  | dndUpdate
  | finish (input : Input Id) (target : WorkspaceId)
  | removeWindow (window : Id) (target : WorkspaceId)
  | addOutput (output : Output) (top : Option WorkspaceId) (bottom : WorkspaceId)
      (activeWorkspaceIdx primaryActiveIdx : ℕ)
  | removeOutput (output : Output) (primaryActiveIdx : ℕ)
  /-- Any other operation of the layout. -/
  | rearrange (layout : Layout Id)
  | refresh

variable {Id : Type} [DecidableEq Id]

/-- What the other operations of the layout do: they switch, add, move and clean up workspaces, open
    and move windows, open and close the overview.  Gestures stay with their workspace or their
    monitor, or end; none begins. -/
structure Rearranges (l l' : Layout Id) : Prop extends Layout.Keeps l l' where
  viewGestures : l'.viewGestures.Subperm l.viewGestures
  switchGestures : l'.switchGestures.Subperm l.switchGestures

instance (l l' : Layout Id) : Decidable (Rearranges l l') :=
  decidable_of_iff
    ((l'.outputs = l.outputs ∧ l'.primaryIdx = l.primaryIdx ∧
        l'.interactiveMove = l.interactiveMove ∧ l'.dnd = l.dnd ∧ l.windows ⊆ l'.windows) ∧
      l'.viewGestures.Subperm l.viewGestures ∧ l'.switchGestures.Subperm l.switchGestures)
    ⟨fun ⟨⟨h₁, h₂, h₃, h₄, h₅⟩, hv, hs⟩ => ⟨⟨h₁, h₂, h₃, h₄, h₅⟩, hv, hs⟩,
      fun h => ⟨⟨h.outputs, h.primaryIdx, h.interactiveMove, h.dnd, h.windows⟩,
        h.viewGestures, h.switchGestures⟩⟩

/-- An input for view gestures of this kind is on. -/
def holdsView (inputs : List (Input Id)) (isTouchpad : Bool) : Prop :=
  .viewOffset isTouchpad ∈ inputs ∨ isTouchpad = true ∧ .swipe ∈ inputs

instance (inputs : List (Input Id)) (isTouchpad : Bool) : Decidable (holdsView inputs isTouchpad) :=
  inferInstanceAs (Decidable (_ ∨ _))

/-- An input for switch gestures of this kind is on. -/
def holdsSwitch (inputs : List (Input Id)) (isTouchpad : Bool) : Prop :=
  .workspaceSwitch isTouchpad ∈ inputs ∨ isTouchpad = true ∧ .swipe ∈ inputs

instance (inputs : List (Input Id)) (isTouchpad : Bool) :
    Decidable (holdsSwitch inputs isTouchpad) :=
  inferInstanceAs (Decidable (_ ∨ _))

/-- What the end of an input does to the layout. -/
def Layout.finish (self : Layout Id) (target : WorkspaceId) : Input Id → Layout Id
  | .viewOffset isTouchpad => self.viewOffsetGestureEnd (some isTouchpad)
  | .workspaceSwitch isTouchpad => self.workspaceSwitchGestureEnd (some isTouchpad)
  -- `on_gesture_swipe_end`.
  | .swipe => (self.workspaceSwitchGestureEnd (some true)).viewOffsetGestureEnd (some true)
  | .interactiveMove window => self.interactiveMoveEnd window target
  | .dnd => self.dndEnd

namespace World

variable (self : World Id)

/-- An input has done something. -/
def input (inputs : List (Input Id)) : Option (Layout Id) → World Id
  | some layout => { self with layout, inputs, refreshed := false }
  | none => { self with panicked := true }

/-- Something else has happened. -/
def change : Option (Layout Id) → World Id
  | some layout => { self with layout }
  | none => { self with panicked := true }

/-- The inputs of a move that begins, if it does. -/
def beginMove (window : Id) (output : Output) : World Id :=
  match self.layout.interactiveMoveBegin window output with
  | some layout => self.input (.interactiveMove window :: self.inputs) (some layout)
  | none => self

/-- What an event does, `none` where it cannot happen. -/
def step (e : Event Id) : Option (World Id) :=
  let layout := self.layout
  if self.panicked then none
  else
    match e with
    | .start (.interactiveMove _) => none
    | .start input => some (self.input (input :: self.inputs) (some layout))
    | .viewOffsetGestureBegin output workspaceIdx isTouchpad =>
      if holdsView self.inputs isTouchpad ∧ layout.outputs ≠ [] then
        some (self.input self.inputs
          (layout.viewOffsetGestureBegin output workspaceIdx isTouchpad))
      else none
    | .workspaceSwitchGestureBegin output isTouchpad =>
      if holdsSwitch self.inputs isTouchpad ∧ layout.outputs ≠ [] then
        some (self.input self.inputs (layout.workspaceSwitchGestureBegin output isTouchpad))
      else none
    | .interactiveMoveBegin window output => some (self.beginMove window output)
    | .interactiveMoveUpdate window crossed isFloating =>
      if .interactiveMove window ∈ self.inputs then
        some (self.input self.inputs (layout.interactiveMoveUpdate window crossed isFloating))
      else none
    | .toggleWindowFloating window =>
      if .interactiveMove window ∈ self.inputs then
        some (self.input self.inputs (layout.toggleWindowFloating window))
      else none
    | .dndUpdate =>
      if .dnd ∈ self.inputs then some (self.input self.inputs (some layout.dndUpdate)) else none
    | .finish input target =>
      if input ∈ self.inputs then
        some (self.input (self.inputs.erase input) (some (layout.finish target input)))
      else none
    | .removeWindow window target => some (self.change (some (layout.removeWindow window target)))
    | .addOutput output top bottom activeWorkspaceIdx primaryActiveIdx =>
      if output ∈ layout.outputs then none
      else some (self.change
        (layout.addOutput output top bottom activeWorkspaceIdx primaryActiveIdx))
    | .removeOutput output primaryActiveIdx =>
      if output ∈ layout.outputs then
        some (self.change (layout.removeOutput output primaryActiveIdx))
      else none
    | .rearrange layout' =>
      if Rearranges layout layout' then some (self.change (some layout')) else none
    | .refresh =>
      match layout.refresh with
      | some layout => some { self with layout, refreshed := true }
      | none => some { self with panicked := true }

omit [DecidableEq Id] in
/-- An empty layout without outputs, and no inputs. -/
def start : World Id where
  layout := ⟨.noOutputs [], none, false, false⟩
  inputs := []
  refreshed := true
  panicked := false

/-- **What gestures are to be like.** -/
structure GesturesEnd (w : World Id) : Prop where
  /-- Once every input has ended and `refresh` has run, there are none. -/
  ended : w.inputs = [] → w.refreshed = true →
    w.layout.viewGestures = [] ∧ w.layout.switchGestures = []
  /-- Without something that is dragged, none is for that. -/
  dragged : w.layout.dnd = false → w.layout.interactiveMove = none →
    (∀ p ∈ w.layout.viewGestures, p.2.isDnd = false) ∧
      ∀ p ∈ w.layout.switchGestures, p.2.isDnd = false
  /-- At most one workspace and at most one monitor is in another one. -/
  oneView : (w.layout.viewGestures.filter (!·.2.isDnd)).length ≤ 1
  oneSwitch : (w.layout.switchGestures.filter (!·.2.isDnd)).length ≤ 1
  noPanic : w.panicked = false

/-- No window is toggled that was closed during its move, and no output is plugged in, with none
    there, while a stored workspace is in a gesture whose input has ended. -/
def Careful (w : World Id) : Event Id → Prop
  | .toggleWindowFloating window =>
    window ∈ w.layout.windows ∨ w.layout.movedWindow = some window
  | .addOutput .. =>
    w.layout.outputs = [] →
      ∀ p ∈ w.layout.viewGestures, p.2.isDnd = false → holdsView w.inputs p.2.isTouchpad
  | _ => True

instance (w : World Id) : (e : Event Id) → Decidable (Careful w e)
  | .toggleWindowFloating _ => inferInstanceAs (Decidable (_ ∨ _))
  | .addOutput .. => inferInstanceAs (Decidable (_ → _))
  | .start _ | .viewOffsetGestureBegin .. | .workspaceSwitchGestureBegin ..
  | .interactiveMoveBegin .. | .interactiveMoveUpdate .. | .dndUpdate | .finish ..
  | .removeWindow .. | .removeOutput .. | .rearrange _ | .refresh => isTrue trivial

end World

/-! ## Gestures that exclude one another -/

section Exclusive

variable {κ : Type}

/-- Any two gestures are for what is dragged: one that is not is alone. -/
def Exclusive (l : List (κ × Gesture)) : Prop :=
  l.Pairwise fun a b => a.2.isDnd = true ∧ b.2.isDnd = true

variable {l l' : List (κ × Gesture)}

theorem Exclusive.subperm (h : Exclusive l) (hsub : l'.Subperm l) : Exclusive l' := by
  obtain ⟨m, hperm, hsub⟩ := hsub
  exact (hperm.pairwise_iff fun hab => ⟨hab.2, hab.1⟩).mp (h.sublist hsub)

theorem exclusive_of_length (h : l.length ≤ 1) : Exclusive l := by
  match l, h with
  | [], _ => exact List.Pairwise.nil
  | [p], _ => exact pairwise_singleton _ p

theorem exclusive_of_dnd (h : ∀ p ∈ l, p.2.isDnd = true) : Exclusive l :=
  pairwise_of_forall_mem_list fun a ha b hb => ⟨h a ha, h b hb⟩

variable {p : κ × Gesture}

/-- A gesture that is not for what is dragged is alone. -/
theorem Exclusive.eq_singleton (h : Exclusive l) (hp : p ∈ l) (hdnd : p.2.isDnd = false) :
    l = [p] := by
  obtain ⟨before, after, rfl⟩ := append_of_mem hp
  obtain ⟨-, hafter, hbefore⟩ := pairwise_append.mp h
  have hnil : before = [] := by
    rw [eq_nil_iff_forall_not_mem]
    intro q hq
    have := (hbefore q hq p mem_cons_self).2
    rw [hdnd] at this
    cases this
  have hnil' : after = [] := by
    rw [eq_nil_iff_forall_not_mem]
    intro q hq
    have := (rel_of_pairwise_cons hafter hq).1
    rw [hdnd] at this
    cases this
  rw [hnil, hnil', nil_append]

theorem Exclusive.length_filter_le (h : Exclusive l) : (l.filter (!·.2.isDnd)).length ≤ 1 := by
  by_cases hnone : ∀ p ∈ l, p.2.isDnd = true
  · have hnil : l.filter (!·.2.isDnd) = [] :=
      filter_eq_nil_iff.mpr fun p hp => by simp [hnone p hp]
    rw [hnil]
    exact Nat.zero_le 1
  · push Not at hnone
    obtain ⟨p, hp, hdnd⟩ := hnone
    rw [h.eq_singleton hp (by simpa using hdnd)]
    exact List.length_filter_le _ _

/-- After the end of a kind of gesture, another one is left, or ones for what is dragged. -/
theorem Exclusive.isTouchpad_of_mem_eraseP (h : Exclusive l) {isTouchpad : Bool}
    (hp : p ∈ l.eraseP fun p => p.2.answers (some isTouchpad)) (hdnd : p.2.isDnd = false) :
    p.2.isTouchpad = !isTouchpad := by
  rw [h.eq_singleton (mem_of_mem_eraseP hp) hdnd] at hp
  by_contra hkind
  have hanswers : p.2.answers (some isTouchpad) = true := by
    unfold Gesture.answers
    cases hk : p.2.isTouchpad <;> cases isTouchpad <;> simp_all
  rw [eraseP_cons_of_pos (p := fun p : κ × Gesture => p.2.answers (some isTouchpad))
    hanswers] at hp
  cases hp

end Exclusive

namespace World

/-! ## What careful steps keep -/

/-- What holds in every state that careful runs reach. -/
structure Inv (w : World Id) : Prop where
  outputs : w.layout.outputs.Nodup
  primary : ∀ i, w.layout.primaryIdx = some i → i < w.layout.outputs.length
  views : Exclusive w.layout.viewGestures
  switches : Exclusive w.layout.switchGestures
  viewHeld : w.layout.outputs ≠ [] →
    ∀ p ∈ w.layout.viewGestures, p.2.isDnd = false → holdsView w.inputs p.2.isTouchpad
  switchHeld : ∀ p ∈ w.layout.switchGestures, p.2.isDnd = false →
    holdsSwitch w.inputs p.2.isTouchpad
  viewDnd : ∀ p ∈ w.layout.viewGestures, p.2.isDnd = true →
    w.layout.dnd = true ∨ w.layout.mayLockView = true
  switchDnd : ∀ p ∈ w.layout.switchGestures, p.2.isDnd = true →
    w.layout.dnd = true ∨ w.layout.movedWindow.isSome = true
  dndHeld : w.layout.dnd = true → .dnd ∈ w.inputs
  moveHeld : ∀ window, w.layout.movedWindow = some window → .interactiveMove window ∈ w.inputs
  starting : ∀ window, w.layout.interactiveMove = some (.starting window) →
    window ∈ w.layout.windows
  settled : w.inputs = [] → w.refreshed = true → w.layout.viewGestures = []
  noPanic : w.panicked = false

variable {w w' : World Id}

omit [DecidableEq Id] in
theorem inv_start : (start : World Id).Inv where
  outputs := nodup_nil
  primary := fun i hi => by cases hi
  views := List.Pairwise.nil
  switches := List.Pairwise.nil
  viewHeld := fun _ p hp => by cases hp
  switchHeld := fun p hp => by cases hp
  viewDnd := fun p hp => by cases hp
  switchDnd := fun p hp => by cases hp
  dndHeld := fun h => by cases h
  moveHeld := fun window h => by cases h
  starting := fun window h => by cases h
  settled := fun _ _ => rfl
  noPanic := rfl

variable {isTouchpad : Bool} {l l' : Layout Id} {output : Output} {window : Id}

section

omit [DecidableEq Id]

theorem Inv.primary_congr (h : w.Inv) (hout : l'.outputs = w.layout.outputs)
    (hprimary : l'.primaryIdx = w.layout.primaryIdx) (i : ℕ) (hi : l'.primaryIdx = some i) :
    i < l'.outputs.length := by
  rw [hout]
  exact h.primary i (hprimary ▸ hi)

theorem holdsView_of_subset {inputs inputs' : List (Input Id)} (hsub : inputs ⊆ inputs')
    (h : holdsView inputs isTouchpad) : holdsView inputs' isTouchpad :=
  h.imp (fun h => hsub h) fun h => ⟨h.1, hsub h.2⟩

theorem holdsSwitch_of_subset {inputs inputs' : List (Input Id)} (hsub : inputs ⊆ inputs')
    (h : holdsSwitch inputs isTouchpad) : holdsSwitch inputs' isTouchpad :=
  h.imp (fun h => hsub h) fun h => ⟨h.1, hsub h.2⟩

section

variable (h : w.Inv)
include h

/-- Without inputs nothing is dragged, and then no gesture is for that. -/
theorem Inv.nothing_dragged (hnil : w.inputs = []) :
    w.layout.dnd = false ∧ w.layout.movedWindow = none := by
  constructor
  · by_contra hdnd
    have := h.dndHeld (by simpa using hdnd)
    rw [hnil] at this
    cases this
  · rw [eq_none_iff_forall_ne_some]
    intro window hmove
    have := h.moveHeld window hmove
    rw [hnil] at this
    cases this

omit h in
theorem mayLockView_eq_false (h : l.movedWindow = none) : l.mayLockView = false := by
  unfold Layout.movedWindow at h
  unfold Layout.mayLockView
  cases hmove : l.interactiveMove with
  | none => rfl
  | some state =>
    rw [hmove] at h
    cases state <;> cases h

/-- **What the invariant says of gestures.** -/
theorem Inv.gesturesEnd : w.GesturesEnd where
  ended := fun hnil hrefreshed => by
    obtain ⟨hdnd, hmove⟩ := h.nothing_dragged hnil
    refine ⟨h.settled hnil hrefreshed, ?_⟩
    rw [eq_nil_iff_forall_not_mem]
    intro p hp
    cases hkind : p.2.isDnd with
    | true =>
      rcases h.switchDnd p hp hkind with hon | hon
      · rw [hdnd] at hon
        cases hon
      · rw [hmove] at hon
        cases hon
    | false =>
      have := h.switchHeld p hp hkind
      rw [hnil] at this
      simp [holdsSwitch] at this
  dragged := fun hdnd hmove => by
    have hmoved : w.layout.movedWindow = none := by
      unfold Layout.movedWindow
      rw [hmove]
    constructor
    · intro p hp
      by_contra hkind
      rcases h.viewDnd p hp (by simpa using hkind) with hon | hon
      · rw [hdnd] at hon
        cases hon
      · rw [mayLockView_eq_false hmoved] at hon
        cases hon
    · intro p hp
      by_contra hkind
      rcases h.switchDnd p hp (by simpa using hkind) with hon | hon
      · rw [hdnd] at hon
        cases hon
      · rw [hmoved] at hon
        cases hon
  oneView := h.views.length_filter_le
  oneSwitch := h.switches.length_filter_le
  noPanic := h.noPanic

/-- Where gestures stay or end while nothing else happens to what is dragged. -/
theorem Inv.shrink (hout : l'.outputs.Nodup)
    (hprimary : ∀ i, l'.primaryIdx = some i → i < l'.outputs.length)
    (hview : l'.viewGestures.Subperm w.layout.viewGestures)
    (hswitch : l'.switchGestures.Subperm w.layout.switchGestures)
    (hmove : l'.interactiveMove = w.layout.interactiveMove) (hdnd : l'.dnd = w.layout.dnd)
    (hheld : l'.outputs ≠ [] →
      ∀ p ∈ w.layout.viewGestures, p.2.isDnd = false → holdsView w.inputs p.2.isTouchpad)
    (hstarting : ∀ window, w.layout.interactiveMove = some (.starting window) → window ∈ l'.windows) :
    ({ w with layout := l' } : World Id).Inv := by
  have hmoved := movedWindow_congr hmove
  have hlock := mayLockView_congr hmove
  exact {
    outputs := hout
    primary := hprimary
    views := h.views.subperm hview
    switches := h.switches.subperm hswitch
    viewHeld := fun hne p hp hkind => hheld hne p (hview.subset hp) hkind
    switchHeld := fun p hp hkind => h.switchHeld p (hswitch.subset hp) hkind
    viewDnd := fun p hp hkind => by
      show l'.dnd = true ∨ l'.mayLockView = true
      rw [hdnd, hlock]
      exact h.viewDnd p (hview.subset hp) hkind
    switchDnd := fun p hp hkind => by
      show l'.dnd = true ∨ l'.movedWindow.isSome = true
      rw [hdnd, hmoved]
      exact h.switchDnd p (hswitch.subset hp) hkind
    dndHeld := fun hon => h.dndHeld (hdnd ▸ hon)
    moveHeld := fun window hon => h.moveHeld window (hmoved ▸ hon)
    starting := fun window hon => hstarting window (hmove ▸ hon)
    settled := fun hnil hrefreshed => by
      have hempty := h.settled hnil hrefreshed
      rw [hempty] at hview
      exact subperm_nil.mp hview
    noPanic := h.noPanic }

/-- An input does something after which `GesturesEnd` waits for a refresh. -/
theorem Inv.unrefreshed : ({ w with refreshed := false } : World Id).Inv :=
  { h with settled := fun _ hrefreshed => by cases hrefreshed }

/-- More inputs. -/
theorem Inv.inputs {inputs : List (Input Id)} (hsub : w.inputs ⊆ inputs) (hne : inputs ≠ []) :
    ({ w with inputs } : World Id).Inv :=
  { h with
    viewHeld := fun hout p hp hkind => holdsView_of_subset hsub (h.viewHeld hout p hp hkind)
    switchHeld := fun p hp hkind => holdsSwitch_of_subset hsub (h.switchHeld p hp hkind)
    dndHeld := fun hon => hsub (h.dndHeld hon)
    moveHeld := fun window hon => hsub (h.moveHeld window hon)
    settled := fun hnil _ => absurd hnil hne }

theorem Inv.viewOffsetGestureBegin {workspaceIdx : Option ℕ} (hheld : holdsView w.inputs isTouchpad)
    (hbegin : w.layout.viewOffsetGestureBegin output workspaceIdx isTouchpad = some l') :
    ({ w with layout := l', refreshed := false } : World Id).Inv := by
  have hkeeps := keeps_viewOffsetGestureBegin hbegin
  obtain ⟨hlen, hmem⟩ := viewGestures_viewOffsetGestureBegin h.outputs hbegin
  have hswitch := switchGestures_viewOffsetGestureBegin hbegin
  have hmoved := movedWindow_congr hkeeps.interactiveMove
  have hlock := mayLockView_congr hkeeps.interactiveMove
  exact {
    outputs := hkeeps.outputs ▸ h.outputs
    primary := h.primary_congr hkeeps.outputs hkeeps.primaryIdx
    views := exclusive_of_length hlen
    switches := hswitch ▸ h.switches
    viewHeld := fun hne p hp hkind => by
      rcases hmem p hp with hold | hnew
      · exact h.viewHeld (hkeeps.outputs ▸ hne) p hold hkind
      · rw [hnew]
        exact hheld
    switchHeld := fun p hp hkind => h.switchHeld p (hswitch ▸ hp) hkind
    viewDnd := fun p hp hkind => by
      rcases hmem p hp with hold | hnew
      · show l'.dnd = true ∨ l'.mayLockView = true
        rw [hkeeps.dnd, hlock]
        exact h.viewDnd p hold hkind
      · rw [hnew] at hkind
        cases hkind
    switchDnd := fun p hp hkind => by
      show l'.dnd = true ∨ l'.movedWindow.isSome = true
      rw [hkeeps.dnd, hmoved]
      exact h.switchDnd p (hswitch ▸ hp) hkind
    dndHeld := fun hon => h.dndHeld (hkeeps.dnd ▸ hon)
    moveHeld := fun window hon => h.moveHeld window (hmoved ▸ hon)
    starting := fun window hon =>
      hkeeps.windows (h.starting window (hkeeps.interactiveMove ▸ hon))
    settled := fun _ hrefreshed => by cases hrefreshed
    noPanic := h.noPanic }

theorem Inv.workspaceSwitchGestureBegin (hheld : holdsSwitch w.inputs isTouchpad)
    (hbegin : w.layout.workspaceSwitchGestureBegin output isTouchpad = some l') :
    ({ w with layout := l', refreshed := false } : World Id).Inv := by
  have hkeeps := keeps_workspaceSwitchGestureBegin hbegin
  obtain ⟨hlen, hmem⟩ := switchGestures_workspaceSwitchGestureBegin h.outputs hbegin
  have hview := viewGestures_workspaceSwitchGestureBegin hbegin
  have hlock := mayLockView_congr hkeeps.interactiveMove
  exact {
    outputs := hkeeps.outputs ▸ h.outputs
    primary := h.primary_congr hkeeps.outputs hkeeps.primaryIdx
    views := hview ▸ h.views
    switches := exclusive_of_length hlen
    viewHeld := fun hne p hp hkind => h.viewHeld (hkeeps.outputs ▸ hne) p (hview ▸ hp) hkind
    switchHeld := fun p hp hkind => by
      rw [hmem p hp]
      exact hheld
    viewDnd := fun p hp hkind => by
      show l'.dnd = true ∨ l'.mayLockView = true
      rw [hkeeps.dnd, hlock]
      exact h.viewDnd p (hview ▸ hp) hkind
    switchDnd := fun p hp hkind => by
      rw [hmem p hp] at hkind
      cases hkind
    dndHeld := fun hon => h.dndHeld (hkeeps.dnd ▸ hon)
    moveHeld := fun window hon =>
      h.moveHeld window (movedWindow_congr hkeeps.interactiveMove ▸ hon)
    starting := fun window hon =>
      hkeeps.windows (h.starting window (hkeeps.interactiveMove ▸ hon))
    settled := fun _ hrefreshed => by cases hrefreshed
    noPanic := h.noPanic }

end

end

/-- A move begins: views and switches are locked, or stay. -/
theorem Inv.interactiveMoveBegin (h : w.Inv)
    (hbegin : w.layout.interactiveMoveBegin window output = some l') :
    ({ w with
        layout := l'
        inputs := .interactiveMove window :: w.inputs
        refreshed := false } : World Id).Inv := by
  unfold Layout.interactiveMoveBegin at hbegin
  split_ifs at hbegin with hsome
  obtain ⟨mon, hmon, hbegin⟩ := bind_eq_some_iff.mp hbegin
  obtain ⟨ws, hws, hbegin⟩ := bind_eq_some_iff.mp hbegin
  have hthere : window ∈ w.layout.windows := by
    have hmem : ws ∈ w.layout.workspaces := by
      unfold Layout.workspaces
      have hmon := mem_of_find?_eq_some hmon
      unfold Layout.monitors at hmon
      cases hset : w.layout.monitorSet with
      | normal monitors primaryIdx =>
        rw [hset] at hmon
        exact mem_flatMap.mpr ⟨mon, hmon, mem_of_find?_eq_some hws⟩
      | noOutputs workspaces =>
        rw [hset] at hmon
        cases hmon
    have hhas := List.find?_some hws
    obtain ⟨p, hp, heq⟩ := any_eq_true.mp hhas
    refine mem_flatMap.mpr ⟨ws, hmem, mem_map.mpr ⟨p, hp, by simpa using heq⟩⟩
  obtain ⟨begun, hbegun⟩ : ∃ begun : Layout Id,
    begun = { w.layout with interactiveMove := some (.starting window) } := ⟨_, rfl⟩
  have hl' : l' = begun.beginMonitorGestures ∨
      l' = begun.beginMonitorGestures.beginWorkspaceGestures := by
    rw [hbegun]
    split_ifs at hbegin
    · exact .inl (some.inj hbegin).symm
    · exact .inr (some.inj hbegin).symm
  have hswitch : l'.switchGestures = begun.beginMonitorGestures.switchGestures := by
    rcases hl' with rfl | rfl
    · rfl
    · exact switchGestures_mapWorkspaces _ _
  have hview : l'.viewGestures = w.layout.viewGestures ∨
      ∀ p ∈ l'.viewGestures, p.2.isDnd = true := by
    rcases hl' with rfl | rfl
    · left
      rw [viewGestures_beginMonitorGestures, hbegun]
      rfl
    · exact .inr fun p hp => isDnd_of_mem_beginWorkspaceGestures _ hp
  have hkeeps : Layout.Keeps begun l' := by
    rcases hl' with rfl | rfl
    · exact keeps_beginMonitorGestures begun
    · exact keeps_beginGestures begun
  rw [hbegun] at hkeeps
  have hmove : l'.interactiveMove = some (.starting window) := hkeeps.interactiveMove
  have hdnd : l'.dnd = w.layout.dnd := hkeeps.dnd
  have hout : l'.outputs = w.layout.outputs := hkeeps.outputs
  have hprimary : l'.primaryIdx = w.layout.primaryIdx := hkeeps.primaryIdx
  have hswitchOld : begun.switchGestures = w.layout.switchGestures := by
    rw [hbegun]
    rfl
  have hsub : w.inputs ⊆ .interactiveMove window :: w.inputs := subset_cons_self _ _
  exact {
    outputs := hout ▸ h.outputs
    primary := h.primary_congr hout hprimary
    views := by
      rcases hview with hview | hview
      · exact hview ▸ h.views
      · exact exclusive_of_dnd hview
    switches := by
      show Exclusive l'.switchGestures
      rw [hswitch]
      cases hopen : begun.overviewOpen with
      | false =>
        rw [switchGestures_begin_of_closed _ hopen, hswitchOld]
        exact h.switches
      | true =>
        refine exclusive_of_dnd fun p hp => ?_
        rcases mem_switchGestures_begin _ hp with hkind | ⟨hclosed, -⟩
        · exact hkind
        · rw [hopen] at hclosed
          cases hclosed
    viewHeld := fun hne p hp hkind => by
      rcases hview with hview | hview
      · exact holdsView_of_subset hsub (h.viewHeld (hout ▸ hne) p (hview ▸ hp) hkind)
      · have := hview p hp
        rw [hkind] at this
        cases this
    switchHeld := fun p hp hkind => by
      have hp : p ∈ begun.beginMonitorGestures.switchGestures := hswitch ▸ hp
      rcases mem_switchGestures_begin _ hp with hdnd | ⟨-, hp⟩
      · rw [hkind] at hdnd
        cases hdnd
      · exact holdsSwitch_of_subset hsub (h.switchHeld p (hswitchOld ▸ hp) hkind)
    viewDnd := fun p hp hkind => by
      right
      show l'.mayLockView = true
      unfold Layout.mayLockView
      rw [hmove]
    switchDnd := fun p hp hkind => by
      right
      show l'.movedWindow.isSome = true
      unfold Layout.movedWindow
      rw [hmove]
      rfl
    dndHeld := fun hon => mem_cons_of_mem _ (h.dndHeld (hdnd ▸ hon))
    moveHeld := fun other hon => by
      unfold Layout.movedWindow at hon
      rw [hmove] at hon
      cases hon
      exact mem_cons_self
    starting := fun other hon => by
      rw [hmove] at hon
      cases hon
      exact hkeeps.windows hthere
    settled := fun hnil => by cases hnil
    noPanic := h.noPanic }

/-- The interactive move ends: switches stop scrolling for it, and views too, unless it cannot
    have locked them. -/
structure MoveEnds (l l' : Layout Id) : Prop where
  outputs : l'.outputs = l.outputs
  primaryIdx : l'.primaryIdx = l.primaryIdx
  interactiveMove : l'.interactiveMove = none
  dnd : l'.dnd = l.dnd
  switches : l'.switchGestures = l.switchGestures.filter (!·.2.isDnd)
  views : l'.viewGestures = [] ∨ l'.viewGestures = l.viewGestures ∧ l.mayLockView = false

section

omit [DecidableEq Id]

theorem moveEnds_endGestures (l : Layout Id) :
    MoveEnds l
      ({ l with interactiveMove := none } : Layout Id).endMonitorGestures.endWorkspaceGestures where
  outputs := (keeps_endGestures { l with interactiveMove := none }).outputs
  primaryIdx := (keeps_endGestures { l with interactiveMove := none }).primaryIdx
  interactiveMove := rfl
  dnd := rfl
  switches := by
    rw [Layout.endWorkspaceGestures, switchGestures_mapWorkspaces,
      switchGestures_endMonitorGestures]
    rfl
  views := .inl (viewGestures_endWorkspaceGestures _)

/-- A change of the windows of workspaces after the move has ended. -/
theorem MoveEnds.mapWorkspaces (h : MoveEnds l l') {f : Workspace Id → Workspace Id}
    (hf : ∀ ws, (f ws).gesture = ws.gesture) : MoveEnds l (l'.mapWorkspaces f) where
  outputs := (l'.outputs_mapWorkspaces f).trans h.outputs
  primaryIdx := (l'.primaryIdx_mapWorkspaces f).trans h.primaryIdx
  interactiveMove := h.interactiveMove
  dnd := h.dnd
  switches := (l'.switchGestures_mapWorkspaces f).trans h.switches
  views := by
    rw [l'.viewGestures_mapWorkspaces_of_gesture hf]
    exact h.views

/-- A floating window that is moved cannot have locked the views. -/
theorem moveEnds_floating (h : l.interactiveMove = some (.moving window true)) :
    MoveEnds l ({ l with interactiveMove := none } : Layout Id).endMonitorGestures where
  outputs := (keeps_endMonitorGestures { l with interactiveMove := none }).outputs
  primaryIdx := (keeps_endMonitorGestures { l with interactiveMove := none }).primaryIdx
  interactiveMove := rfl
  dnd := rfl
  switches := by
    rw [switchGestures_endMonitorGestures]
    rfl
  views := by
    right
    rw [viewGestures_endMonitorGestures]
    refine ⟨rfl, ?_⟩
    unfold Layout.mayLockView
    rw [h]
    rfl

theorem gesture_place (window : Id) (isFloating : Bool) (target : WorkspaceId)
    (ws : Workspace Id) :
    (if ws.id = target then { ws with windows := (window, isFloating) :: ws.windows }
      else ws : Workspace Id).gesture = ws.gesture := by
  split_ifs <;> rfl

end

variable (target : WorkspaceId)

theorem moveEnds_interactiveMoveEnd (h : l.movedWindow = some window) :
    MoveEnds l (l.interactiveMoveEnd window target) := by
  unfold Layout.movedWindow at h
  unfold Layout.interactiveMoveEnd
  cases hmove : l.interactiveMove with
  | none =>
    rw [hmove] at h
    cases h
  | some state =>
    rw [hmove] at h
    cases state with
    | starting windowId =>
      cases h
      dsimp only
      rw [if_neg (not_not.mpr rfl)]
      exact moveEnds_endGestures l
    | moving windowId isFloating =>
      cases h
      dsimp only
      rw [if_neg (not_not.mpr rfl)]
      cases isFloating with
      | true => exact (moveEnds_floating hmove).mapWorkspaces (gesture_place window true target)
      | false =>
        exact (moveEnds_endGestures l).mapWorkspaces (gesture_place window false target)

theorem interactiveMoveEnd_of_ne (h : l.movedWindow ≠ some window) :
    l.interactiveMoveEnd window target = l := by
  unfold Layout.movedWindow at h
  unfold Layout.interactiveMoveEnd
  cases hmove : l.interactiveMove with
  | none => rfl
  | some state =>
    rw [hmove] at h
    cases state with
    | starting windowId => exact if_pos fun heq => h (congrArg some heq)
    | moving windowId isFloating => exact if_pos fun heq => h (congrArg some heq.symm)

omit [DecidableEq Id] in
theorem Inv.moveEnds (h : w.Inv) (hends : MoveEnds w.layout l') :
    ({ w with layout := l' } : World Id).Inv := by
  have hviews : l'.viewGestures.Sublist w.layout.viewGestures := by
    rcases hends.views with hnil | ⟨hsame, -⟩
    · rw [hnil]
      exact nil_sublist _
    · rw [hsame]
  have hswitches : l'.switchGestures.Sublist w.layout.switchGestures := by
    rw [hends.switches]
    exact filter_sublist
  have hmoved : l'.movedWindow = none := by
    unfold Layout.movedWindow
    rw [hends.interactiveMove]
  exact {
    outputs := hends.outputs ▸ h.outputs
    primary := h.primary_congr hends.outputs hends.primaryIdx
    views := h.views.sublist hviews
    switches := h.switches.sublist hswitches
    viewHeld := fun hne p hp hkind =>
      h.viewHeld (hends.outputs ▸ hne) p (hviews.subset hp) hkind
    switchHeld := fun p hp hkind => h.switchHeld p (hswitches.subset hp) hkind
    viewDnd := fun p hp hkind => by
      left
      show l'.dnd = true
      rw [hends.dnd]
      rcases hends.views with hnil | ⟨hsame, hlock⟩
      · rw [hnil] at hp
        cases hp
      · rcases h.viewDnd p (hsame ▸ hp) hkind with hon | hon
        · exact hon
        · rw [hlock] at hon
          cases hon
    switchDnd := fun p hp hkind => by
      rw [hends.switches, mem_filter, hkind] at hp
      exact absurd hp.2 Bool.false_ne_true
    dndHeld := fun hon => h.dndHeld (hends.dnd ▸ hon)
    moveHeld := fun window hon => by
      rw [hmoved] at hon
      cases hon
    starting := fun window hon => by
      rw [hends.interactiveMove] at hon
      cases hon
    settled := fun hnil hrefreshed => by
      rw [h.settled hnil hrefreshed] at hviews
      exact sublist_nil.mp hviews
    noPanic := h.noPanic }

variable {inputs : List (Input Id)}

omit [DecidableEq Id] in
/-- An input that nothing needs any more is over. -/
theorem Inv.over (h : w.Inv)
    (hview : w.layout.outputs ≠ [] →
      ∀ p ∈ w.layout.viewGestures, p.2.isDnd = false → holdsView inputs p.2.isTouchpad)
    (hswitch : ∀ p ∈ w.layout.switchGestures, p.2.isDnd = false →
      holdsSwitch inputs p.2.isTouchpad) (hdnd : w.layout.dnd = true → .dnd ∈ inputs)
    (hmove : ∀ window, w.layout.movedWindow = some window → .interactiveMove window ∈ inputs) :
    ({ w with inputs, refreshed := false } : World Id).Inv :=
  { h with
    viewHeld := hview
    switchHeld := hswitch
    dndHeld := hdnd
    moveHeld := hmove
    settled := fun _ hrefreshed => by cases hrefreshed }

variable {input : Input Id}

/-- An input of another sort leaves what holds view gestures. -/
theorem holdsView_erase (h : holdsView inputs isTouchpad) (hview : input ≠ .viewOffset isTouchpad)
    (hswipe : isTouchpad = true → input ≠ .swipe) : holdsView (inputs.erase input) isTouchpad := by
  rcases h with h | ⟨htouchpad, h⟩
  · exact .inl ((mem_erase_of_ne hview.symm).mpr h)
  · exact .inr ⟨htouchpad, (mem_erase_of_ne (hswipe htouchpad).symm).mpr h⟩

theorem holdsSwitch_erase (h : holdsSwitch inputs isTouchpad)
    (hswitch : input ≠ .workspaceSwitch isTouchpad) (hswipe : isTouchpad = true → input ≠ .swipe) :
    holdsSwitch (inputs.erase input) isTouchpad := by
  rcases h with h | ⟨htouchpad, h⟩
  · exact .inl ((mem_erase_of_ne hswitch.symm).mpr h)
  · exact .inr ⟨htouchpad, (mem_erase_of_ne (hswipe htouchpad).symm).mpr h⟩

section

omit [DecidableEq Id]

/-- The end of a gesture of the layout, as one of the invariants sees it. -/
theorem Inv.gestureEnd (h : w.Inv) (hkeeps : Layout.Keeps w.layout l')
    (hview : l'.viewGestures.Sublist w.layout.viewGestures)
    (hswitch : l'.switchGestures.Sublist w.layout.switchGestures) :
    ({ w with layout := l' } : World Id).Inv := by
  exact h.shrink (hkeeps.outputs ▸ h.outputs) (h.primary_congr hkeeps.outputs hkeeps.primaryIdx)
    hview.subperm hswitch.subperm hkeeps.interactiveMove hkeeps.dnd
    (fun hne => h.viewHeld (hkeeps.outputs ▸ hne))
    fun window hon => hkeeps.windows (h.starting window hon)

/-- What is left of the view gestures after the end of a kind of them. -/
theorem Inv.viewGestures_end (h : w.Inv) (isTouchpad : Bool) :
    (w.layout.viewOffsetGestureEnd (some isTouchpad)).viewGestures.Sublist
        w.layout.viewGestures ∧
      (w.layout.outputs ≠ [] →
        ∀ p ∈ (w.layout.viewOffsetGestureEnd (some isTouchpad)).viewGestures,
          p.2.isDnd = false → p.2.isTouchpad = !isTouchpad) := by
  by_cases hne : w.layout.outputs = []
  · refine ⟨?_, fun hne' => absurd hne hne'⟩
    unfold Layout.viewOffsetGestureEnd Layout.viewGestures Layout.workspaces
    unfold Layout.outputs Layout.monitors at hne
    cases hset : w.layout.monitorSet with
    | noOutputs workspaces => rw [hset]
    | normal monitors primaryIdx =>
      rw [hset] at hne
      have hnil : monitors = [] := map_eq_nil_iff.mp hne
      rw [hnil]
      exact List.Sublist.refl _
  · rw [viewGestures_viewOffsetGestureEnd _ hne]
    exact ⟨eraseP_sublist, fun _ p hp hkind => h.views.isTouchpad_of_mem_eraseP hp hkind⟩

theorem Inv.switchGestures_end (h : w.Inv) (isTouchpad : Bool) :
    (w.layout.workspaceSwitchGestureEnd (some isTouchpad)).switchGestures.Sublist
        w.layout.switchGestures ∧
      ∀ p ∈ (w.layout.workspaceSwitchGestureEnd (some isTouchpad)).switchGestures,
        p.2.isDnd = false → p.2.isTouchpad = !isTouchpad := by
  rw [switchGestures_workspaceSwitchGestureEnd]
  exact ⟨eraseP_sublist, fun p hp hkind => h.switches.isTouchpad_of_mem_eraseP hp hkind⟩

/-- What is dragged and dropped is over. -/
theorem Inv.dndEnd (h : w.Inv) : ({ w with layout := w.layout.dndEnd } : World Id).Inv ∧
    w.layout.dndEnd.dnd = false := by
  unfold Layout.dndEnd
  split_ifs with hdnd
  · refine ⟨?_, rfl⟩
    obtain ⟨ended, hended⟩ : ∃ ended : Layout Id, ended =
        ({ w.layout with dnd := false } : Layout Id).endMonitorGestures.endWorkspaceGestures :=
      ⟨_, rfl⟩
    have hkeeps := keeps_endGestures ({ w.layout with dnd := false } : Layout Id)
    rw [← hended] at hkeeps
    have hout : ended.outputs = w.layout.outputs := hkeeps.outputs
    have hprimary : ended.primaryIdx = w.layout.primaryIdx := hkeeps.primaryIdx
    have hmove : ended.interactiveMove = w.layout.interactiveMove := hkeeps.interactiveMove
    have hview : ended.viewGestures = [] := by
      rw [hended, viewGestures_endWorkspaceGestures]
    have hswitch : ended.switchGestures = w.layout.switchGestures.filter (!·.2.isDnd) := by
      rw [hended, Layout.endWorkspaceGestures, switchGestures_mapWorkspaces,
        switchGestures_endMonitorGestures]
      rfl
    rw [← hended]
    exact {
      outputs := hout ▸ h.outputs
      primary := h.primary_congr hout hprimary
      views := by
        show Exclusive ended.viewGestures
        rw [hview]
        exact List.Pairwise.nil
      switches := by
        show Exclusive ended.switchGestures
        rw [hswitch]
        exact h.switches.sublist filter_sublist
      viewHeld := fun _ p hp => by
        rw [hview] at hp
        cases hp
      switchHeld := fun p hp hkind => by
        rw [hswitch] at hp
        exact h.switchHeld p (mem_of_mem_filter hp) hkind
      viewDnd := fun p hp => by
        rw [hview] at hp
        cases hp
      switchDnd := fun p hp hkind => by
        rw [hswitch, mem_filter, hkind] at hp
        exact absurd hp.2 Bool.false_ne_true
      dndHeld := fun hon => by
        rw [hended] at hon
        cases hon
      moveHeld := fun window hon => h.moveHeld window (movedWindow_congr hmove ▸ hon)
      starting := fun window hon => hkeeps.windows (h.starting window (hmove ▸ hon))
      settled := fun _ _ => hview
      noPanic := h.noPanic }
  · exact ⟨h, by simpa using hdnd⟩

end

section

variable (h : w.Inv)
include h

/-- **An input ends, and with it its gesture.** -/
theorem Inv.finish (input : Input Id) (target : WorkspaceId) :
    ({ w with
        layout := w.layout.finish target input
        inputs := w.inputs.erase input
        refreshed := false } : World Id).Inv := by
  have hsame {other : Input Id} (hne : other ≠ input) (hon : other ∈ w.inputs) :
      other ∈ w.inputs.erase input := (mem_erase_of_ne hne).mpr hon
  cases input with
  | viewOffset isTouchpad =>
    have hkeeps := keeps_viewOffsetGestureEnd (l := w.layout) (some isTouchpad)
    obtain ⟨hview, hother⟩ := h.viewGestures_end isTouchpad
    have hswitch := switchGestures_viewOffsetGestureEnd (l := w.layout) (some isTouchpad)
    have hended := h.gestureEnd hkeeps hview (by rw [hswitch])
    refine hended.over (fun hne p hp hkind => ?_) (fun p hp hkind => ?_)
      (fun hon => hsame (by simp) (hended.dndHeld hon))
      fun window hon => hsame (by simp) (hended.moveHeld window hon)
    · have htouchpad := hother (hkeeps.outputs ▸ hne) p hp hkind
      refine holdsView_erase (hended.viewHeld hne p hp hkind) ?_ (by simp)
      rw [htouchpad]
      cases isTouchpad <;> simp
    · exact holdsSwitch_erase (hended.switchHeld p hp hkind) (by simp) (by simp)
  | workspaceSwitch isTouchpad =>
    have hkeeps := keeps_workspaceSwitchGestureEnd (l := w.layout) (some isTouchpad)
    obtain ⟨hswitch, hother⟩ := h.switchGestures_end isTouchpad
    have hview :=
      viewGestures_workspaceSwitchGestureEnd (l := w.layout) (some isTouchpad)
    have hended := h.gestureEnd hkeeps (by rw [hview]) hswitch
    refine hended.over (fun hne p hp hkind => ?_) (fun p hp hkind => ?_)
      (fun hon => hsame (by simp) (hended.dndHeld hon))
      fun window hon => hsame (by simp) (hended.moveHeld window hon)
    · exact holdsView_erase (hended.viewHeld hne p hp hkind) (by simp) (by simp)
    · have htouchpad := hother p hp hkind
      refine holdsSwitch_erase (hended.switchHeld p hp hkind) ?_ (by simp)
      rw [htouchpad]
      cases isTouchpad <;> simp
  | swipe =>
    -- The switch first, and then the view.
    have hkeeps := keeps_workspaceSwitchGestureEnd (l := w.layout) (some true)
    obtain ⟨hswitch, hotherSwitch⟩ := h.switchGestures_end true
    have hview := viewGestures_workspaceSwitchGestureEnd (l := w.layout) (some true)
    have hfirst := h.gestureEnd hkeeps (by rw [hview]) hswitch
    have hkeeps' := keeps_viewOffsetGestureEnd
      (l := w.layout.workspaceSwitchGestureEnd (some true)) (some true)
    obtain ⟨hview', hotherView⟩ := hfirst.viewGestures_end true
    have hswitch' := switchGestures_viewOffsetGestureEnd
      (l := w.layout.workspaceSwitchGestureEnd (some true)) (some true)
    have hended := hfirst.gestureEnd hkeeps' hview' (by rw [hswitch'])
    refine hended.over (fun hne p hp hkind => ?_) (fun p hp hkind => ?_)
      (fun hon => hsame (by simp) (hended.dndHeld hon))
      fun window hon => hsame (by simp) (hended.moveHeld window hon)
    · have htouchpad := hotherView (hkeeps'.outputs ▸ hne) p hp hkind
      exact holdsView_erase (hended.viewHeld hne p hp hkind) (by simp) (by simp [htouchpad])
    · have hp' : p ∈ (w.layout.workspaceSwitchGestureEnd (some true)).switchGestures :=
        hswitch' ▸ hp
      have htouchpad := hotherSwitch p hp' hkind
      exact holdsSwitch_erase (hended.switchHeld p hp hkind) (by simp) (by simp [htouchpad])
  | interactiveMove window =>
    have hview (hinv : w.Inv) : w.layout.outputs ≠ [] → ∀ p ∈ w.layout.viewGestures,
        p.2.isDnd = false →
          holdsView (w.inputs.erase (.interactiveMove window)) p.2.isTouchpad :=
      fun hne p hp hkind => holdsView_erase (hinv.viewHeld hne p hp hkind) (by simp) (by simp)
    by_cases hmoved : w.layout.movedWindow = some window
    · have hends := moveEnds_interactiveMoveEnd target hmoved
      have hended := h.moveEnds hends
      refine hended.over (fun hne p hp hkind => ?_) (fun p hp hkind => ?_)
        (fun hon => hsame (by simp) (hended.dndHeld hon)) fun other hon => ?_
      · exact holdsView_erase (hended.viewHeld hne p hp hkind) (by simp) (by simp)
      · exact holdsSwitch_erase (hended.switchHeld p hp hkind) (by simp) (by simp)
      · unfold Layout.movedWindow at hon
        rw [hends.interactiveMove] at hon
        cases hon
    · rw [Layout.finish, interactiveMoveEnd_of_ne target hmoved]
      refine h.over (hview h) (fun p hp hkind => ?_)
        (fun hon => hsame (by simp) (h.dndHeld hon)) fun other hon => ?_
      · exact holdsSwitch_erase (h.switchHeld p hp hkind) (by simp) (by simp)
      · refine hsame (fun heq => hmoved ?_) (h.moveHeld other hon)
        cases heq
        exact hon
  | dnd =>
    obtain ⟨hended, hdnd⟩ := h.dndEnd
    refine hended.over (fun hne p hp hkind => ?_) (fun p hp hkind => ?_) (fun hon => ?_)
      fun window hon => hsame (by simp) (hended.moveHeld window hon)
    · exact holdsView_erase (hended.viewHeld hne p hp hkind) (by simp) (by simp)
    · exact holdsSwitch_erase (hended.switchHeld p hp hkind) (by simp) (by simp)
    · rw [hdnd] at hon
      cases hon

omit [DecidableEq Id] in
/-- The window is in hand: gestures stay, or views are let go where the window floats. -/
theorem Inv.inHand (isFloating : Bool) (hout : l'.outputs = w.layout.outputs)
    (hprimary : l'.primaryIdx = w.layout.primaryIdx)
    (hmove : l'.interactiveMove = some (.moving window isFloating))
    (hmoved : w.layout.movedWindow = some window) (hdnd : l'.dnd = w.layout.dnd)
    (hswitch : l'.switchGestures = w.layout.switchGestures)
    (hview : l'.viewGestures = [] ∨ l'.viewGestures = w.layout.viewGestures ∧ isFloating = false) :
    ({ w with layout := l' } : World Id).Inv := by
  have hsub : l'.viewGestures.Sublist w.layout.viewGestures := by
    rcases hview with hnil | ⟨hsame, -⟩
    · rw [hnil]
      exact nil_sublist _
    · rw [hsame]
  have hmoved' : l'.movedWindow = some window := by
    unfold Layout.movedWindow
    rw [hmove]
  exact {
    outputs := hout ▸ h.outputs
    primary := h.primary_congr hout hprimary
    views := h.views.sublist hsub
    switches := hswitch ▸ h.switches
    viewHeld := fun hne p hp hkind => h.viewHeld (hout ▸ hne) p (hsub.subset hp) hkind
    switchHeld := fun p hp hkind => h.switchHeld p (hswitch ▸ hp) hkind
    viewDnd := fun p hp hkind => by
      rcases hview with hnil | ⟨-, hfloating⟩
      · rw [hnil] at hp
        cases hp
      · right
        show l'.mayLockView = true
        unfold Layout.mayLockView
        rw [hmove, hfloating]
        rfl
    switchDnd := fun p hp hkind => by
      right
      show l'.movedWindow.isSome = true
      rw [hmoved']
      rfl
    dndHeld := fun hon => h.dndHeld (hdnd ▸ hon)
    moveHeld := fun other hon => h.moveHeld other (by
      rw [hmoved', ← hmoved] at hon
      exact hon)
    starting := fun other hon => by
      rw [hmove] at hon
      cases hon
    settled := fun hnil hrefreshed => by
      rw [h.settled hnil hrefreshed] at hsub
      exact sublist_nil.mp hsub
    noPanic := h.noPanic }

/-- A move goes on. -/
theorem Inv.interactiveMoveUpdate (window : Id) (crossed isFloating : Bool) :
    ∃ l', w.layout.interactiveMoveUpdate window crossed isFloating = some l' ∧
      ({ w with layout := l' } : World Id).Inv := by
  unfold Layout.interactiveMoveUpdate
  cases hmove : w.layout.interactiveMove with
  | none => exact ⟨w.layout, rfl, h⟩
  | some state =>
    cases state with
    | moving windowId isFloating' => exact ⟨w.layout, rfl, h⟩
    | starting windowId =>
      dsimp only
      have hthere := h.starting windowId hmove
      have hmoved : w.layout.movedWindow = some windowId := by
        unfold Layout.movedWindow
        rw [hmove]
      by_cases hne : windowId ≠ window
      · exact ⟨w.layout, if_pos hne, h⟩
      rw [not_not] at hne
      rw [hne] at hthere hmoved
      rw [if_neg (not_not.mpr hne), if_neg (not_not.mpr hthere)]
      cases crossed with
      | false => exact ⟨w.layout, rfl, h⟩
      | true =>
        cases isFloating with
        | true =>
          refine ⟨_, rfl, h.inHand true ?_ ?_ rfl hmoved rfl ?_ (.inl ?_)⟩
          · rw [Layout.endWorkspaceGestures, outputs_mapWorkspaces, outputs_mapWorkspaces]
            rfl
          · rw [Layout.endWorkspaceGestures, primaryIdx_mapWorkspaces, primaryIdx_mapWorkspaces]
            rfl
          · rw [Layout.endWorkspaceGestures, switchGestures_mapWorkspaces,
              switchGestures_mapWorkspaces]
            rfl
          · exact viewGestures_endWorkspaceGestures _
        | false =>
          refine ⟨_, rfl, h.inHand false ?_ ?_ rfl hmoved rfl ?_
            (.inr ⟨?_, rfl⟩)⟩
          · exact outputs_mapWorkspaces _ _
          · exact primaryIdx_mapWorkspaces _ _
          · exact switchGestures_mapWorkspaces _ _
          · exact viewGestures_erase _ _

/-- The other button, or a second finger, while the window is there. -/
theorem Inv.toggleWindowFloating
    (hthere : window ∈ w.layout.windows ∨ w.layout.movedWindow = some window) :
    ∃ l', w.layout.toggleWindowFloating window = some l' ∧
      ({ w with layout := l' } : World Id).Inv := by
  have hother (hin : window ∈ w.layout.windows) :
      ∃ l', (if window ∈ w.layout.windows then some w.layout else none) = some l' ∧
        ({ w with layout := l' } : World Id).Inv := ⟨w.layout, if_pos hin, h⟩
  unfold Layout.movedWindow at hthere
  unfold Layout.toggleWindowFloating
  cases hmove : w.layout.interactiveMove with
  | none =>
    rw [hmove] at hthere
    exact hother (hthere.resolve_right fun heq => by cases heq)
  | some state =>
    rw [hmove] at hthere
    cases state with
    | starting windowId =>
      refine hother (hthere.elim id fun heq => ?_)
      cases heq
      exact h.starting window hmove
    | moving windowId isFloating =>
      dsimp only
      have hmoved : w.layout.movedWindow = some windowId := by
        unfold Layout.movedWindow
        rw [hmove]
      split_ifs with heq hfloating
      · refine ⟨_, rfl, h.inHand (!isFloating) rfl rfl rfl hmoved rfl rfl (.inr ⟨rfl, ?_⟩)⟩
        rw [hfloating]
        rfl
      · refine ⟨_, rfl, h.inHand (!isFloating) ?_ ?_ rfl hmoved rfl ?_ (.inl ?_)⟩
        · rw [Layout.endWorkspaceGestures, outputs_mapWorkspaces]
          rfl
        · rw [Layout.endWorkspaceGestures, primaryIdx_mapWorkspaces]
          rfl
        · rw [Layout.endWorkspaceGestures, switchGestures_mapWorkspaces]
          rfl
        · exact viewGestures_endWorkspaceGestures _
      · exact ⟨w.layout, rfl, h⟩
      · rename_i hgone
        refine absurd (hthere.resolve_right fun heq' => heq ?_) hgone
        cases heq'
        rfl

omit [DecidableEq Id] in
/-- Something is dragged. -/
theorem Inv.dndUpdate (hheld : .dnd ∈ w.inputs) :
    ({ w with layout := w.layout.dndUpdate, refreshed := false } : World Id).Inv := by
  obtain ⟨begun, hbegun⟩ : ∃ begun : Layout Id, begun = { w.layout with dnd := true } := ⟨_, rfl⟩
  obtain ⟨l', hl'⟩ : ∃ l', l' = w.layout.dndUpdate := ⟨_, rfl⟩
  have hcases : l' = begun ∨ l' = begun.beginMonitorGestures.beginWorkspaceGestures := by
    rw [hl', hbegun]
    unfold Layout.dndUpdate
    split_ifs
    · exact .inl rfl
    · exact .inr rfl
  have hview : l'.viewGestures = w.layout.viewGestures ∨
      ∀ p ∈ l'.viewGestures, p.2.isDnd = true := by
    rcases hcases with rfl | rfl
    · left
      rw [hbegun]
      rfl
    · exact .inr fun p hp => isDnd_of_mem_beginWorkspaceGestures _ hp
  have hswitch : l'.switchGestures = w.layout.switchGestures ∨
      ∀ p ∈ l'.switchGestures, p.2.isDnd = true := by
    rcases hcases with rfl | rfl
    · left
      rw [hbegun]
      rfl
    · rw [Layout.beginWorkspaceGestures, switchGestures_mapWorkspaces]
      cases hopen : begun.overviewOpen with
      | false =>
        left
        rw [switchGestures_begin_of_closed _ hopen, hbegun]
        rfl
      | true =>
        right
        intro p hp
        rcases mem_switchGestures_begin _ hp with hkind | ⟨hclosed, -⟩
        · exact hkind
        · rw [hopen] at hclosed
          cases hclosed
  have hkeeps : Layout.Keeps begun l' := by
    rcases hcases with rfl | rfl
    · exact .refl l'
    · exact keeps_beginGestures begun
  rw [hbegun] at hkeeps
  have hmove : l'.interactiveMove = w.layout.interactiveMove := hkeeps.interactiveMove
  have hdnd : l'.dnd = true := hkeeps.dnd
  have hout : l'.outputs = w.layout.outputs := hkeeps.outputs
  have hprimary : l'.primaryIdx = w.layout.primaryIdx := hkeeps.primaryIdx
  rw [← hl']
  exact {
    outputs := hout ▸ h.outputs
    primary := h.primary_congr hout hprimary
    views := by
      rcases hview with hview | hview
      · exact hview ▸ h.views
      · exact exclusive_of_dnd hview
    switches := by
      rcases hswitch with hswitch | hswitch
      · exact hswitch ▸ h.switches
      · exact exclusive_of_dnd hswitch
    viewHeld := fun hne p hp hkind => by
      rcases hview with hview | hview
      · exact h.viewHeld (hout ▸ hne) p (hview ▸ hp) hkind
      · have := hview p hp
        rw [hkind] at this
        cases this
    switchHeld := fun p hp hkind => by
      rcases hswitch with hswitch | hswitch
      · exact h.switchHeld p (hswitch ▸ hp) hkind
      · have := hswitch p hp
        rw [hkind] at this
        cases this
    viewDnd := fun _ _ _ => .inl hdnd
    switchDnd := fun _ _ _ => .inl hdnd
    dndHeld := fun _ => hheld
    moveHeld := fun window hon => h.moveHeld window (movedWindow_congr hmove ▸ hon)
    starting := fun window hon => hkeeps.windows (h.starting window (hmove ▸ hon))
    settled := fun _ hrefreshed => by cases hrefreshed
    noPanic := h.noPanic }

/-- Taking a window out of the workspaces that is not moved. -/
theorem Inv.erase (hne : w.layout.interactiveMove ≠ some (.starting window)) :
    ({ w with layout := w.layout.mapWorkspaces (·.erase window) } : World Id).Inv := by
  refine h.shrink ?_ (fun i hi => ?_) ?_ ?_ rfl rfl (fun hne p hp hkind => ?_)
    fun other hon => mem_windows_erase _ (h.starting other hon) fun heq => ?_
  · rw [outputs_mapWorkspaces]
    exact h.outputs
  · rw [primaryIdx_mapWorkspaces] at hi
    rw [outputs_mapWorkspaces]
    exact h.primary i hi
  · rw [viewGestures_erase]
  · rw [switchGestures_mapWorkspaces]
  · rw [outputs_mapWorkspaces] at hne
    exact h.viewHeld hne p hp hkind
  · rw [heq] at hon
    exact hne hon

/-- A window closes. -/
theorem Inv.removeWindow (window : Id) (target : WorkspaceId) :
    ({ w with layout := w.layout.removeWindow window target } : World Id).Inv := by
  unfold Layout.removeWindow
  cases hmove : w.layout.interactiveMove with
  | none => exact h.erase (by rw [hmove]; simp)
  | some state =>
    cases state with
    | starting windowId =>
      dsimp only
      split_ifs with heq
      · have hmoved : w.layout.movedWindow = some window := by
          unfold Layout.movedWindow
          rw [hmove, heq]
        have hends := moveEnds_interactiveMoveEnd target hmoved
        exact (h.moveEnds hends).erase (by rw [hends.interactiveMove]; simp)
      · refine h.erase ?_
        rw [hmove]
        simpa using heq
    | moving windowId isFloating =>
      dsimp only
      split_ifs with heq
      · exact h.moveEnds (moveEnds_endGestures w.layout)
      · exact h.erase (by rw [hmove]; simp)

omit [DecidableEq Id] in
/-- An output is plugged in, where no stored workspace is in a gesture whose input has ended. -/
theorem Inv.addOutput (top : Option WorkspaceId) (bottom : WorkspaceId) (active primaryActive : ℕ)
    (hnew : output ∉ w.layout.outputs)
    (hstored : w.layout.outputs = [] →
      ∀ p ∈ w.layout.viewGestures, p.2.isDnd = false → holdsView w.inputs p.2.isTouchpad) :
    ∃ l', w.layout.addOutput output top bottom active primaryActive = some l' ∧
      ({ w with layout := l' } : World Id).Inv := by
  have hsome : ∃ l', w.layout.addOutput output top bottom active primaryActive = some l' ∧
      l'.interactiveMove = w.layout.interactiveMove ∧ l'.dnd = w.layout.dnd ∧
      ∀ i, l'.primaryIdx = some i → i ≤ w.layout.outputs.length := by
    have hprimary := h.primary
    unfold Layout.primaryIdx Layout.outputs Layout.monitors at hprimary
    unfold Layout.addOutput Layout.outputs Layout.monitors
    cases hset : w.layout.monitorSet with
    | noOutputs workspaces =>
      refine ⟨_, rfl, rfl, rfl, fun i hi => ?_⟩
      cases hi
      exact Nat.zero_le _
    | normal monitors primaryIdx =>
      rw [hset] at hprimary
      have hlt : primaryIdx < monitors.length := by
        simpa [MonitorSet.monitors] using hprimary primaryIdx rfl
      dsimp only
      rw [List.getElem?_eq_getElem hlt]
      refine ⟨_, rfl, rfl, rfl, fun i hi => ?_⟩
      cases hi
      simpa [MonitorSet.monitors] using hlt.le
  obtain ⟨l', hadd, hmove, hdnd, hprimary⟩ := hsome
  refine ⟨l', hadd, ?_⟩
  obtain ⟨hswitch, hout⟩ := switchGestures_addOutput hadd
  have hview := viewGestures_addOutput hadd
  refine h.shrink ?_ (fun i hi => ?_) hview.1 hswitch.subperm hmove hdnd
    (fun _ p hp hkind => ?_) fun window hon => windows_addOutput hadd (h.starting window hon)
  · rw [hout]
    exact List.Nodup.append h.outputs (nodup_singleton output) (by simpa using hnew)
  · rw [hout, length_append]
    exact Nat.lt_succ_of_le (hprimary i hi)
  · by_cases hne : w.layout.outputs = []
    · exact hstored hne p hp hkind
    · exact h.viewHeld hne p hp hkind

omit [DecidableEq Id] in
/-- An output is unplugged. -/
theorem Inv.removeOutput (primaryActive : ℕ) (hmem : output ∈ w.layout.outputs) :
    ∃ l', w.layout.removeOutput output primaryActive = some l' ∧
      ({ w with layout := l' } : World Id).Inv := by
  have hne : w.layout.outputs ≠ [] := ne_nil_of_mem hmem
  obtain ⟨l', hremove⟩ : ∃ l', w.layout.removeOutput output primaryActive = some l' := by
    have hprimary := h.primary
    unfold Layout.primaryIdx Layout.outputs Layout.monitors at hprimary
    unfold Layout.outputs Layout.monitors at hmem
    unfold Layout.removeOutput
    cases hset : w.layout.monitorSet with
    | noOutputs workspaces =>
      rw [hset] at hmem
      cases hmem
    | normal monitors primaryIdx =>
      rw [hset] at hmem hprimary
      obtain ⟨monitor, hmonitor, hout⟩ := mem_map.mp hmem
      have hany : monitors.any (·.output = output) = true :=
        any_eq_true.mpr ⟨monitor, hmonitor, decide_eq_true hout⟩
      obtain ⟨idx, hidx⟩ := isSome_iff_exists.mp (List.findIdx?_isSome.trans hany)
      obtain ⟨hlt, -, -⟩ := List.findIdx?_eq_some_iff_getElem.mp hidx
      have hprimary : primaryIdx < monitors.length := by
        simpa [MonitorSet.monitors] using hprimary primaryIdx rfl
      dsimp only
      rw [hidx, bind_eq_bind, bind_some, List.getElem?_eq_getElem hlt, bind_eq_bind, bind_some]
      have hlen : (monitors.eraseIdx idx).length = monitors.length - 1 :=
        length_eraseIdx_of_lt hlt
      by_cases hempty : (monitors.eraseIdx idx).isEmpty = true
      · rw [if_pos hempty]
        exact ⟨_, rfl⟩
      · rw [if_neg hempty]
        rw [List.isEmpty_iff, ← length_eq_zero_iff] at hempty
        have hvalid : (if idx ≤ primaryIdx then primaryIdx - 1 else primaryIdx) <
            (monitors.eraseIdx idx).length := by
          split_ifs <;> omega
        rw [List.getElem?_eq_getElem hvalid]
        exact ⟨_, rfl⟩
  refine ⟨l', hremove, ?_⟩
  obtain ⟨hout, hprimary⟩ := outputs_removeOutput hremove
  obtain ⟨hmove, hdnd⟩ := interactiveMove_removeOutput hremove
  exact h.shrink (hout.nodup h.outputs) hprimary (viewGestures_removeOutput hremove)
    (switchGestures_removeOutput hremove).subperm hmove hdnd
    (fun _ => h.viewHeld hne)
    fun window hon => windows_removeOutput hremove (h.starting window hon)

/-- A refresh finds the window of a move, and leaves only gestures that are held. -/
theorem Inv.refresh :
    ∃ l', w.layout.refresh = some l' ∧
      ({ w with layout := l', refreshed := true } : World Id).Inv := by
  obtain ⟨ongoing, hongoing⟩ : ∃ ongoing, w.layout.ongoingScrollingDnd = some ongoing := by
    unfold Layout.ongoingScrollingDnd
    split_ifs
    · exact ⟨_, rfl⟩
    · cases hmove : w.layout.interactiveMove with
      | none => exact ⟨_, rfl⟩
      | some state =>
        cases state with
        | moving window isFloating => exact ⟨_, rfl⟩
        | starting window =>
          obtain ⟨ws, hws, hin⟩ := mem_flatMap.mp (h.starting window hmove)
          obtain ⟨p, hp, hwindow⟩ := mem_map.mp hin
          have hhas : ws.hasWindow window = true :=
            any_eq_true.mpr ⟨p, hp, decide_eq_true hwindow⟩
          have hfind : (w.layout.workspaces.find? (·.hasWindow window)).isSome = true :=
            List.find?_isSome.mpr ⟨ws, hws, hhas⟩
          obtain ⟨found, hfound⟩ := isSome_iff_exists.mp hfind
          dsimp only
          rw [hfound]
          exact ⟨_, rfl⟩
  obtain ⟨l', hrefresh⟩ : ∃ l', w.layout.refresh = some l' := by
    unfold Layout.refresh
    rw [hongoing]
    cases hset : w.layout.monitorSet with
    | normal | noOutputs => exact ⟨_, rfl⟩
  refine ⟨l', hrefresh, ?_⟩
  have hkeeps := keeps_refresh hrefresh
  have hswitch := switchGestures_refresh hrefresh
  have hview := viewGestures_refresh hrefresh
  have hmoved := movedWindow_congr hkeeps.interactiveMove
  have hlock := mayLockView_congr hkeeps.interactiveMove
  exact {
    outputs := hkeeps.outputs ▸ h.outputs
    primary := h.primary_congr hkeeps.outputs hkeeps.primaryIdx
    views := by
      rcases hview with ⟨-, hdnd⟩ | ⟨hsub, -⟩
      · exact exclusive_of_dnd hdnd
      · exact h.views.subperm hsub.subperm
    switches := by
      rcases hswitch with ⟨-, hdnd⟩ | hsub
      · exact exclusive_of_dnd hdnd
      · exact h.switches.subperm hsub.subperm
    viewHeld := fun hne p hp hkind => by
      rcases hview with ⟨-, hdnd⟩ | ⟨hsub, -⟩
      · have := hdnd p hp
        rw [hkind] at this
        cases this
      · exact h.viewHeld (hkeeps.outputs ▸ hne) p (hsub.subset hp) hkind
    switchHeld := fun p hp hkind => by
      rcases hswitch with ⟨-, hdnd⟩ | hsub
      · have := hdnd p hp
        rw [hkind] at this
        cases this
      · exact h.switchHeld p (hsub.subset hp) hkind
    viewDnd := fun p hp hkind => by
      show l'.dnd = true ∨ l'.mayLockView = true
      rw [hkeeps.dnd, hlock]
      rcases hview with ⟨hon, -⟩ | ⟨hsub, -⟩
      · exact hon
      · exact h.viewDnd p (hsub.subset hp) hkind
    switchDnd := fun p hp hkind => by
      show l'.dnd = true ∨ l'.movedWindow.isSome = true
      rw [hkeeps.dnd, hmoved]
      rcases hswitch with ⟨hon, -⟩ | hsub
      · exact hon
      · exact h.switchDnd p (hsub.subset hp) hkind
    dndHeld := fun hon => h.dndHeld (hkeeps.dnd ▸ hon)
    moveHeld := fun window hon => h.moveHeld window (hmoved ▸ hon)
    starting := fun window hon =>
      hkeeps.windows (h.starting window (hkeeps.interactiveMove ▸ hon))
    settled := fun hnil _ => by
      obtain ⟨hdnd, hmove⟩ := h.nothing_dragged hnil
      have hunlocked := mayLockView_eq_false hmove
      rcases hview with ⟨hon, -⟩ | ⟨hsub, hempty⟩
      · rw [hdnd, hunlocked] at hon
        simp at hon
      · by_cases hout : w.layout.outputs = []
        · exact hempty hout
        · rw [eq_nil_iff_forall_not_mem]
          intro p hp
          cases hkind : p.2.isDnd with
          | true =>
            have := h.viewDnd p (hsub.subset hp) hkind
            rw [hdnd, hunlocked] at this
            simp at this
          | false =>
            have := h.viewHeld hout p (hsub.subset hp) hkind
            rw [hnil] at this
            simp [holdsView] at this
    noPanic := h.noPanic }

omit [DecidableEq Id] in
/-- The layout is rearranged. -/
theorem Inv.rearrange (hl' : Rearranges w.layout l') :
    ({ w with layout := l' } : World Id).Inv := by
  exact h.shrink (hl'.outputs ▸ h.outputs) (h.primary_congr hl'.outputs hl'.primaryIdx)
    hl'.viewGestures hl'.switchGestures hl'.interactiveMove hl'.dnd
    (fun hne => h.viewHeld (hl'.outputs ▸ hne))
    fun window hon => hl'.windows (h.starting window hon)

omit h in
omit [DecidableEq Id] in
theorem monitorSet_of_outputs (h : l.outputs ≠ []) :
    ∃ monitors primaryIdx, l.monitorSet = .normal monitors primaryIdx := by
  cases hset : l.monitorSet with
  | normal monitors primaryIdx => exact ⟨monitors, primaryIdx, rfl⟩
  | noOutputs workspaces =>
    refine absurd ?_ h
    unfold Layout.outputs Layout.monitors
    rw [hset]
    rfl

/-- **Careful steps keep the invariant.** -/
theorem inv_step {e : Event Id} (hcareful : Careful w e) (hstep : w.step e = some w') : w'.Inv := by
  unfold step at hstep
  rw [if_neg (by rw [h.noPanic]; exact Bool.false_ne_true)] at hstep
  cases e with
  | start input =>
    cases input with
    | interactiveMove window => cases hstep
    | viewOffset _ | workspaceSwitch _ | swipe | dnd =>
      cases hstep
      exact (h.inputs (subset_cons_self _ _) (cons_ne_nil _ _)).unrefreshed
  | viewOffsetGestureBegin output workspaceIdx isTouchpad =>
    dsimp only at hstep
    split_ifs at hstep with hcan
    cases hstep
    obtain ⟨l', hbegin⟩ : ∃ l',
        w.layout.viewOffsetGestureBegin output workspaceIdx isTouchpad = some l' := by
      obtain ⟨monitors, primaryIdx, hset⟩ := monitorSet_of_outputs hcan.2
      unfold Layout.viewOffsetGestureBegin
      rw [hset]
      exact ⟨_, rfl⟩
    rw [hbegin]
    exact h.viewOffsetGestureBegin hcan.1 hbegin
  | workspaceSwitchGestureBegin output isTouchpad =>
    dsimp only at hstep
    split_ifs at hstep with hcan
    cases hstep
    obtain ⟨l', hbegin⟩ : ∃ l',
        w.layout.workspaceSwitchGestureBegin output isTouchpad = some l' := by
      obtain ⟨monitors, primaryIdx, hset⟩ := monitorSet_of_outputs hcan.2
      unfold Layout.workspaceSwitchGestureBegin
      rw [hset]
      exact ⟨_, rfl⟩
    rw [hbegin]
    exact h.workspaceSwitchGestureBegin hcan.1 hbegin
  | interactiveMoveBegin window output =>
    cases hstep
    unfold beginMove
    cases hbegin : w.layout.interactiveMoveBegin window output with
    | none => exact h
    | some l' => exact h.interactiveMoveBegin hbegin
  | interactiveMoveUpdate window crossed isFloating =>
    dsimp only at hstep
    split_ifs at hstep
    cases hstep
    obtain ⟨l', hl', hinv⟩ := h.interactiveMoveUpdate window crossed isFloating
    rw [hl']
    exact hinv.unrefreshed
  | toggleWindowFloating window =>
    dsimp only at hstep
    split_ifs at hstep
    cases hstep
    obtain ⟨l', hl', hinv⟩ := h.toggleWindowFloating hcareful
    rw [hl']
    exact hinv.unrefreshed
  | dndUpdate =>
    split_ifs at hstep with hheld
    cases hstep
    exact h.dndUpdate hheld
  | finish input target =>
    dsimp only at hstep
    split_ifs at hstep
    cases hstep
    exact h.finish input target
  | removeWindow window target =>
    cases hstep
    exact h.removeWindow window target
  | addOutput output top bottom active primaryActive =>
    dsimp only at hstep
    split_ifs at hstep with hnew
    cases hstep
    obtain ⟨l', hl', hinv⟩ := h.addOutput top bottom active primaryActive hnew hcareful
    rw [hl']
    exact hinv
  | removeOutput output primaryActive =>
    dsimp only at hstep
    split_ifs at hstep with hmem
    cases hstep
    obtain ⟨l', hl', hinv⟩ := h.removeOutput primaryActive hmem
    rw [hl']
    exact hinv
  | rearrange l' =>
    dsimp only at hstep
    split_ifs at hstep with hl'
    cases hstep
    exact h.rearrange hl'
  | refresh =>
    obtain ⟨l', hl', hinv⟩ := h.refresh
    rw [hl'] at hstep
    cases hstep
    exact hinv

end

/-- **Gestures end with their input, and exclude one another**, in careful runs. -/
theorem gestures_end {es : List (Event Id)} (h : Run.Along step Careful start es) :
    Run.Always step GesturesEnd start es :=
  h.always (fun _ _ _ hinv hC hstep => inv_step hinv hC hstep) (fun _ hinv => hinv.gesturesEnd)
    inv_start

/-! ## Runs that are not careful -/

/-- An output. -/
def plugged : Output := ⟨0, "DP-1", none, none, none⟩

/-- The output with one workspace, on which a window is open, and with a gesture. -/
def opened (viewOffset : Option Gesture) : Layout ℕ where
  monitorSet :=
    .normal [⟨plugged, [⟨1, OutputId.new plugged, none, [(7, false)], false, viewOffset⟩], 0, none⟩]
      0
  interactiveMove := none
  dnd := false
  overviewOpen := false

/-- An output is plugged in, and a window opens. -/
def opening : List (Event ℕ) :=
  [.addOutput plugged none 2 0 0, .rearrange (opened none)]

/-- A swipe over the view, with a change of outputs before its end. -/
def swiping : List (Event ℕ) :=
  opening ++ [.start (.viewOffset true), .viewOffsetGestureBegin plugged none true,
    .removeOutput plugged 0, .addOutput plugged none 2 0 0, .finish (.viewOffset true) 1, .refresh]

theorem gestures_end_swiping :
    Run.Along step Careful start swiping ∧ Run.Always step GesturesEnd start swiping :=
  have hcareful : Run.Along step Careful start swiping := by decide +kernel
  ⟨hcareful, gestures_end hcareful⟩

/-- A window is moved and closes, and a second finger goes down. -/
def secondFinger : List (Event ℕ) :=
  opening ++ [.interactiveMoveBegin 7 plugged, .removeWindow 7 1, .toggleWindowFloating 7]

/-- **The second finger panics.** -/
theorem secondFinger_panics : ¬ Run.Always step GesturesEnd start secondFinger := by
  intro h
  obtain ⟨w, hw, hpanicked⟩ :
      ∃ w, Run.exec step start secondFinger = some w ∧ w.panicked = true := ⟨_, rfl, rfl⟩
  have hend := (h.finish hw).noPanic
  rw [hpanicked] at hend
  cases hend

/-- A gesture ends while its output is unplugged. -/
def replugged : List (Event ℕ) :=
  opening ++ [.start (.viewOffset true), .viewOffsetGestureBegin plugged none true,
    .removeOutput plugged 0, .finish (.viewOffset true) 1, .addOutput plugged none 2 0 0, .refresh]

/-- **The gesture is left.** -/
theorem replugged_leaves : ¬ Run.Always step GesturesEnd start replugged := by
  intro h
  obtain ⟨w, hw, hinputs, hrefreshed, hview⟩ :
      ∃ w, Run.exec step start replugged = some w ∧ w.inputs = [] ∧ w.refreshed = true ∧
        w.layout.viewGestures ≠ [] := ⟨_, rfl, rfl, rfl, by decide⟩
  exact hview ((h.finish hw).ended hinputs hrefreshed).1

end World

end Tiri.Layout.Gestures
