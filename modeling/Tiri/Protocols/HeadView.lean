import Mathlib.Data.List.Nodup
import Tiri.Config.Outputs

/-!
# What a client sees of the outputs

The events of the wlr-output-management protocol, the heads that a client makes up from them, and
what it has to see: each output under a head of its own, with its own modes.

Results:
* `Shows.replace`: a head changes and may get new modes;
* `Shows.head`, `Shows.mode`: the events of a head and of a mode of it;
* `Shows.create`, `Shows.finish`: a head comes or goes.
-/

namespace Tiri.Protocols.OutputManagement

open NiriIpc (Transform)
open Nat
open Function
open List
open Option

/-- The events of `zwlr_output_manager_v1`. -/
inductive ManagerEvent
  | head (head : ℕ)
  | done (serial : ℕ)
  | finished
  deriving DecidableEq

/-- The events of `zwlr_output_head_v1`. -/
inductive HeadEvent
  | name (name : String)
  | description (description : String)
  | physicalSize (width height : ℕ)
  | mode (mode : ℕ)
  | enabled (enabled : Bool)
  | currentMode (mode : ℕ)
  | position (x y : ℤ)
  | transform (transform : Transform)
  | scale (scale : ℚ)
  | make (make : String)
  | model (model : String)
  | serialNumber (serialNumber : String)
  | adaptiveSync (state : Bool)
  | finished
  deriving DecidableEq

/-- The events of `zwlr_output_mode_v1`. -/
inductive ModeEvent
  | size (width height : ℕ)
  | refresh (refresh : ℕ)
  | preferred
  | finished
  deriving DecidableEq

/-- What a client knows of a mode. -/
structure ModeView where
  id : ℕ
  size : Option (ℕ × ℕ)
  refresh : Option ℕ
  preferred : Bool

/-- What a client knows of a head. -/
structure HeadView where
  id : ℕ
  name : Option String
  description : Option String
  physicalSize : Option (ℕ × ℕ)
  modes : List ModeView
  enabled : Option Bool
  /-- The mode that was last said to be the current one. -/
  currentMode : Option ℕ
  position : Option (ℤ × ℤ)
  transform : Option Transform
  scale : Option ℚ
  make : Option String
  model : Option String
  serialNumber : Option String
  adaptiveSync : Option Bool

namespace ModeView

/-- Nothing is known of a new mode. -/
def new (id : ℕ) : ModeView where
  id := id
  size := none
  refresh := none
  preferred := false

/-- A mode gets an event. -/
def receive (m : ModeView) : ModeEvent → ModeView
  | .size width height => { m with size := some (width, height) }
  | .refresh refresh => { m with refresh := some refresh }
  | .preferred => { m with preferred := true }
  | .finished => m

@[simp] theorem receive_id (m : ModeView) (event : ModeEvent) : (m.receive event).id = m.id := by
  cases event <;> rfl

end ModeView

namespace HeadView

/-- Nothing is known of a new head. -/
def new (id : ℕ) : HeadView where
  id := id
  name := none
  description := none
  physicalSize := none
  modes := []
  enabled := none
  currentMode := none
  position := none
  transform := none
  scale := none
  make := none
  model := none
  serialNumber := none
  adaptiveSync := none

variable (hv : HeadView)

/-- The handles of the modes. -/
def modeIds : List ℕ := hv.modes.map ModeView.id

/-- A head gets an event. -/
def receive : HeadEvent → HeadView
  | .name name => { hv with name := some name }
  | .description description => { hv with description := some description }
  | .physicalSize width height => { hv with physicalSize := some (width, height) }
  | .mode mode => { hv with modes := hv.modes ++ [ModeView.new mode] }
  | .enabled enabled => { hv with enabled := some enabled }
  | .currentMode mode => { hv with currentMode := some mode }
  | .position x y => { hv with position := some (x, y) }
  | .transform transform => { hv with transform := some transform }
  | .scale scale => { hv with scale := some scale }
  | .make make => { hv with make := some make }
  | .model model => { hv with model := some model }
  | .serialNumber serialNumber => { hv with serialNumber := some serialNumber }
  | .adaptiveSync state => { hv with adaptiveSync := some state }
  | .finished => hv

/-- A mode of the head gets an event.  A mode that is finished is no longer a mode of it. -/
def receiveMode (mode : ℕ) : ModeEvent → HeadView
  | .finished => { hv with modes := hv.modes.filter fun m => m.id ≠ mode }
  | event => { hv with modes := hv.modes.map fun m => if m.id = mode then m.receive event else m }

@[simp] theorem receive_id (hv : HeadView) (event : HeadEvent) :
    (hv.receive event).id = hv.id := by
  cases event <;> rfl

@[simp] theorem receiveMode_id (hv : HeadView) (mode : ℕ) (event : ModeEvent) :
    (hv.receiveMode mode event).id = hv.id := by
  cases event <;> rfl

theorem receive_modes (hv : HeadView) {event : HeadEvent} (hmode : ∀ mode, event ≠ .mode mode) :
    (hv.receive event).modes = hv.modes := by
  cases event with
  | mode mode => exact absurd rfl (hmode mode)
  | _ => rfl

theorem mem_modeIds {hv : HeadView} {mode : ℕ} :
    mode ∈ hv.modeIds ↔ ∃ m ∈ hv.modes, m.id = mode := mem_map

/-- The handles that an event of a mode leaves. -/
theorem modeIds_receiveMode (hv : HeadView) (mode : ℕ) (event : ModeEvent) :
    (hv.receiveMode mode event).modeIds =
      if event = .finished then hv.modeIds.filter fun id => id ≠ mode else hv.modeIds := by
  by_cases hfinished : event = .finished
  · subst hfinished
    unfold modeIds receiveMode
    rw [List.filter_map]
    rfl
  · rw [if_neg hfinished]
    have hmap : (hv.receiveMode mode event).modes =
        hv.modes.map fun m => if m.id = mode then m.receive event else m := by
      cases event with
      | finished => exact absurd rfl hfinished
      | _ => rfl
    unfold modeIds
    rw [hmap, List.map_map]
    apply map_congr_left
    intro m _
    show (if m.id = mode then m.receive event else m).id = m.id
    by_cases hm : m.id = mode
    · rw [if_pos hm, ModeView.receive_id]
    · rw [if_neg hm]

/-- An event of another mode changes nothing. -/
theorem receiveMode_of_notMem {hv : HeadView} {mode : ℕ} (hmode : mode ∉ hv.modeIds)
    (event : ModeEvent) : hv.receiveMode mode event = hv := by
  have hne : ∀ m ∈ hv.modes, m.id ≠ mode := fun m hm heq => hmode (mem_modeIds.mpr ⟨m, hm, heq⟩)
  have hmap : (hv.modes.map fun m => if m.id = mode then m.receive event else m) = hv.modes := by
    rw [map_congr_left fun m hm => if_neg (hne m hm), List.map_id']
  have hfilter : (hv.modes.filter fun m => m.id ≠ mode) = hv.modes :=
    filter_eq_self.mpr fun m hm => decide_eq_true (hne m hm)
  cases event with
  | finished => exact congrArg (fun modes => { hv with modes }) hfilter
  | _ => exact congrArg (fun modes => { hv with modes }) hmap

end HeadView

/-- The heads that a client makes up from the events. -/
abbrev View := ℕ → Option HeadView

namespace View

/-- An event of the manager. -/
def manager (v : View) : ManagerEvent → View
  | .head head => update v head (some (HeadView.new head))
  | .done _ => v
  | .finished => v

/-- An event of a head.  A head that is finished is no longer there. -/
def head (v : View) (head : ℕ) (event : HeadEvent) : View :=
  update v head
    (if event = .finished then none else (v head).map fun hv => hv.receive event)

/-- An event of a mode, of whichever head it is. -/
def mode (v : View) (mode : ℕ) (event : ModeEvent) : View :=
  fun head => (v head).map fun hv => hv.receiveMode mode event

end View

/-! ## What is shown -/

section Shows

variable {OutputId : Type} [DecidableEq OutputId] {next next' : ℕ} {view : View}
variable {told : OutputId → Option HeadView} {o : OutputId} {hv hv' : HeadView}

/-- The client sees the heads that it is told of, and no others.  Every head and every mode has a
handle of its own, and those from `next` on are not in use. -/
structure Shows (next : ℕ) (told : OutputId → Option HeadView) (view : View) : Prop where
  seen : ∀ o hv, told o = some hv → view hv.id = some hv
  only : ∀ id hv, view id = some hv → hv.id = id ∧ ∃ o, told o = some hv
  injective : ∀ o o' hv hv', told o = some hv → told o' = some hv' → hv.id = hv'.id → o = o'
  id_lt : ∀ o hv, told o = some hv → hv.id < next
  mode_lt : ∀ o hv, told o = some hv → ∀ mode ∈ hv.modeIds, mode < next
  nodup : ∀ o hv, told o = some hv → hv.modeIds.Nodup
  disjoint : ∀ o o' hv hv' mode, told o = some hv → told o' = some hv' →
    mode ∈ hv.modeIds → mode ∈ hv'.modeIds → o = o'

omit [DecidableEq OutputId] in
theorem Shows.empty : Shows 0 (fun _ : OutputId => none) fun _ => none where
  seen _ _ h := nomatch h
  only _ _ h := nomatch h
  injective _ _ _ _ h := nomatch h
  id_lt _ _ h := nomatch h
  mode_lt _ _ h := nomatch h
  nodup _ _ h := nomatch h
  disjoint _ _ _ _ _ h := nomatch h

/-- What is told of an output after an update. -/
theorem update_eq_some_iff {f : OutputId → Option HeadView} {o o' : OutputId}
    {a : Option HeadView} : update f o a o' = some hv ↔
      o' = o ∧ a = some hv ∨ o' ≠ o ∧ f o' = some hv := by
  by_cases heq : o' = o
  · subst heq
    rw [update_self]
    exact ⟨fun h => .inl ⟨rfl, h⟩, fun h => h.elim And.right fun h => absurd rfl h.1⟩
  · rw [update_of_ne heq]
    exact ⟨fun h => .inr ⟨heq, h⟩, fun h => h.elim (fun h => absurd h.1 heq) And.right⟩

section

variable (h : Shows next told view) (ho : told o = some hv)
include h ho

/-- The head of an output changes: it keeps its handle, and its modes are among the old ones or have
fresh handles. -/
theorem Shows.replace (hnext : next ≤ next') (hid : hv'.id = hv.id) (hnodup : hv'.modeIds.Nodup)
    (hmodes : ∀ mode ∈ hv'.modeIds, mode ∈ hv.modeIds ∨ next ≤ mode ∧ mode < next') :
    Shows next' (update told o (some hv')) (update view hv.id (some hv')) := by
  have hother : ∀ o' hv'', o' ≠ o → told o' = some hv'' → hv''.id ≠ hv.id :=
    fun o' hv'' hne ho' heq => hne (h.injective o' o hv'' hv ho' ho heq)
  have hapart : ∀ o' hv'' mode, o' ≠ o → told o' = some hv'' → mode ∈ hv''.modeIds →
      mode ∉ hv'.modeIds := by
    intro o' hv'' mode hne ho' hmem hmem'
    rcases hmodes mode hmem' with hold | ⟨hfresh, -⟩
    · exact hne (h.disjoint o' o hv'' hv mode ho' ho hmem hold)
    · have hlt := h.mode_lt o' hv'' ho' mode hmem
      omega
  constructor
  · intro o' hv'' ho'
    rcases update_eq_some_iff.mp ho' with ⟨-, heq⟩ | ⟨hne, ho'⟩
    · obtain rfl := some.inj heq
      rw [hid, update_self]
    · rw [update_of_ne (hother o' hv'' hne ho')]
      exact h.seen o' hv'' ho'
  · intro id hv'' hview
    by_cases heq : id = hv.id
    · subst heq
      rw [update_self, some.injEq] at hview
      subst hview
      exact ⟨hid, o, update_self ..⟩
    · rw [update_of_ne heq] at hview
      obtain ⟨hhv, o', ho'⟩ := h.only id hv'' hview
      refine ⟨hhv, o', ?_⟩
      have hne : o' ≠ o := by
        intro heqo
        subst heqo
        rw [ho] at ho'
        exact heq (by rw [← hhv, some.inj ho'])
      rw [update_of_ne hne, ho']
  · intro o₁ o₂ hv₁ hv₂ h₁ h₂ heq
    rcases update_eq_some_iff.mp h₁ with ⟨ho₁, h₁⟩ | ⟨hne₁, h₁⟩ <;>
      rcases update_eq_some_iff.mp h₂ with ⟨ho₂, h₂⟩ | ⟨hne₂, h₂⟩
    · rw [ho₁, ho₂]
    · rw [← some.inj h₁, hid] at heq
      exact absurd heq.symm (hother o₂ hv₂ hne₂ h₂)
    · rw [← some.inj h₂, hid] at heq
      exact absurd heq (hother o₁ hv₁ hne₁ h₁)
    · exact h.injective o₁ o₂ hv₁ hv₂ h₁ h₂ heq
  · intro o' hv'' ho'
    rcases update_eq_some_iff.mp ho' with ⟨-, heq⟩ | ⟨-, ho'⟩
    · rw [← some.inj heq, hid]
      exact (h.id_lt o hv ho).trans_le hnext
    · exact (h.id_lt o' hv'' ho').trans_le hnext
  · intro o' hv'' ho' mode hmem
    rcases update_eq_some_iff.mp ho' with ⟨-, heq⟩ | ⟨-, ho'⟩
    · obtain rfl := some.inj heq
      rcases hmodes mode hmem with hold | ⟨-, hlt⟩
      · exact (h.mode_lt o hv ho mode hold).trans_le hnext
      · exact hlt
    · exact (h.mode_lt o' hv'' ho' mode hmem).trans_le hnext
  · intro o' hv'' ho'
    rcases update_eq_some_iff.mp ho' with ⟨-, heq⟩ | ⟨-, ho'⟩
    · rw [← some.inj heq]
      exact hnodup
    · exact h.nodup o' hv'' ho'
  · intro o₁ o₂ hv₁ hv₂ mode h₁ h₂ hm₁ hm₂
    rcases update_eq_some_iff.mp h₁ with ⟨ho₁, h₁⟩ | ⟨hne₁, h₁⟩ <;>
      rcases update_eq_some_iff.mp h₂ with ⟨ho₂, h₂⟩ | ⟨hne₂, h₂⟩
    · rw [ho₁, ho₂]
    · rw [← some.inj h₁] at hm₁
      exact absurd hm₁ (hapart o₂ hv₂ mode hne₂ h₂ hm₂)
    · rw [← some.inj h₂] at hm₂
      exact absurd hm₂ (hapart o₁ hv₁ mode hne₁ h₁ hm₁)
    · exact h.disjoint o₁ o₂ hv₁ hv₂ mode h₁ h₂ hm₁ hm₂

/-- An event of a head, that leaves it there and its modes as they are. -/
theorem Shows.head {event : HeadEvent} (hfinished : event ≠ .finished)
    (hmode : ∀ mode, event ≠ .mode mode) :
    Shows next (update told o (some (hv.receive event))) (view.head hv.id event) := by
  have hmodes := hv.receive_modes hmode
  have hids : (hv.receive event).modeIds = hv.modeIds := congrArg (List.map ModeView.id) hmodes
  unfold View.head
  rw [if_neg hfinished, h.seen o hv ho, map_some]
  refine h.replace ho le_rfl (hv.receive_id event) ?_ ?_
  · rw [hids]
    exact h.nodup o hv ho
  · intro mode hmem
    rw [hids] at hmem
    exact .inl hmem

/-- A head gets a mode. -/
theorem Shows.headMode :
    Shows (next + 1) (update told o (some (hv.receive (.mode next))))
      (view.head hv.id (.mode next)) := by
  have hids : (hv.receive (.mode next)).modeIds = hv.modeIds ++ [next] := map_append
  have hfresh : next ∉ hv.modeIds := fun hmem => lt_irrefl _ (h.mode_lt o hv ho next hmem)
  unfold View.head
  rw [if_neg nofun, h.seen o hv ho, map_some]
  refine h.replace ho (le_succ next) rfl ?_ ?_
  · rw [hids, nodup_append]
    refine ⟨h.nodup o hv ho, nodup_singleton next, ?_⟩
    intro mode hmem mode' hmem' heq
    rw [mem_singleton.mp hmem'] at heq
    exact hfresh (heq ▸ hmem)
  · intro mode hmem
    rw [hids, mem_append, mem_singleton] at hmem
    rcases hmem with hmem | rfl
    · exact .inl hmem
    · exact .inr ⟨le_rfl, lt_succ_self mode⟩

omit [DecidableEq OutputId] in
/-- An event of a mode concerns the head that has the mode. -/
theorem Shows.view_mode {mode : ℕ} (hmode : mode ∈ hv.modeIds) (event : ModeEvent) :
    view.mode mode event = update view hv.id (some (hv.receiveMode mode event)) := by
  funext id
  by_cases heq : id = hv.id
  · subst heq
    show (view hv.id).map _ = _
    rw [update_self, h.seen o hv ho, map_some]
  · rw [update_of_ne heq]
    show (view id).map _ = _
    cases hview : view id with
    | none => rfl
    | some hv'' =>
      obtain ⟨hid, o', ho'⟩ := h.only id hv'' hview
      have hnot : mode ∉ hv''.modeIds := by
        intro hmem
        have hoo' := h.disjoint o o' hv hv'' mode ho ho' hmode hmem
        subst hoo'
        rw [ho] at ho'
        exact heq (by rw [← hid, some.inj ho'])
      rw [map_some, HeadView.receiveMode_of_notMem hnot]

/-- An event of a mode. -/
theorem Shows.mode {mode : ℕ} (hmode : mode ∈ hv.modeIds) (event : ModeEvent) :
    Shows next (update told o (some (hv.receiveMode mode event)))
      (view.mode mode event) := by
  rw [h.view_mode ho hmode event]
  have hsub : (hv.receiveMode mode event).modeIds.Sublist hv.modeIds := by
    rw [hv.modeIds_receiveMode mode event]
    by_cases hfinished : event = .finished
    · rw [if_pos hfinished]
      exact filter_sublist
    · rw [if_neg hfinished]
  exact h.replace ho le_rfl (hv.receiveMode_id mode event) (hsub.nodup (h.nodup o hv ho))
    fun mode hmem => .inl (hsub.subset hmem)

omit ho in
/-- A head comes. -/
theorem Shows.create (ho : told o = none) :
    Shows (next + 1) (update told o (some (HeadView.new next)))
      (view.manager (.head next)) := by
  have hfresh : ∀ o' hv, told o' = some hv → hv.id ≠ next :=
    fun o' hv ho' => (h.id_lt o' hv ho').ne
  constructor
  · intro o' hv ho'
    show update view next (some (HeadView.new next)) hv.id = some hv
    rcases update_eq_some_iff.mp ho' with ⟨-, heq⟩ | ⟨-, ho'⟩
    · obtain rfl := some.inj heq
      exact update_self ..
    · rw [update_of_ne (hfresh o' hv ho')]
      exact h.seen o' hv ho'
  · intro id hv hview
    have hview : update view next (some (HeadView.new next)) id = some hv := hview
    by_cases heq : id = next
    · subst heq
      rw [update_self, some.injEq] at hview
      subst hview
      exact ⟨rfl, o, update_self ..⟩
    · rw [update_of_ne heq] at hview
      obtain ⟨hid, o', ho'⟩ := h.only id hv hview
      have hne : o' ≠ o := by
        rintro rfl
        rw [ho] at ho'
        cases ho'
      exact ⟨hid, o', by rw [update_of_ne hne, ho']⟩
  · intro o₁ o₂ hv₁ hv₂ h₁ h₂ heq
    rcases update_eq_some_iff.mp h₁ with ⟨ho₁, h₁⟩ | ⟨-, h₁⟩ <;>
      rcases update_eq_some_iff.mp h₂ with ⟨ho₂, h₂⟩ | ⟨-, h₂⟩
    · rw [ho₁, ho₂]
    · rw [← some.inj h₁] at heq
      exact absurd heq.symm (hfresh o₂ hv₂ h₂)
    · rw [← some.inj h₂] at heq
      exact absurd heq (hfresh o₁ hv₁ h₁)
    · exact h.injective o₁ o₂ hv₁ hv₂ h₁ h₂ heq
  · intro o' hv ho'
    rcases update_eq_some_iff.mp ho' with ⟨-, heq⟩ | ⟨-, ho'⟩
    · rw [← some.inj heq]
      exact lt_succ_self next
    · exact (h.id_lt o' hv ho').trans (lt_succ_self next)
  · intro o' hv ho' mode hmem
    rcases update_eq_some_iff.mp ho' with ⟨-, heq⟩ | ⟨-, ho'⟩
    · rw [← some.inj heq] at hmem
      exact absurd hmem not_mem_nil
    · exact (h.mode_lt o' hv ho' mode hmem).trans (lt_succ_self next)
  · intro o' hv ho'
    rcases update_eq_some_iff.mp ho' with ⟨-, heq⟩ | ⟨-, ho'⟩
    · rw [← some.inj heq]
      exact nodup_nil
    · exact h.nodup o' hv ho'
  · intro o₁ o₂ hv₁ hv₂ mode h₁ h₂ hm₁ hm₂
    rcases update_eq_some_iff.mp h₁ with ⟨-, h₁⟩ | ⟨-, h₁⟩
    · rw [← some.inj h₁] at hm₁
      exact absurd hm₁ not_mem_nil
    · rcases update_eq_some_iff.mp h₂ with ⟨-, h₂⟩ | ⟨-, h₂⟩
      · rw [← some.inj h₂] at hm₂
        exact absurd hm₂ not_mem_nil
      · exact h.disjoint o₁ o₂ hv₁ hv₂ mode h₁ h₂ hm₁ hm₂

/-- A head goes. -/
theorem Shows.finish : Shows next (update told o none) (view.head hv.id .finished) := by
  have hgone : ∀ {o' hv'}, update told o none o' = some hv' →
      o' ≠ o ∧ told o' = some hv' := by
    intro o' hv' ho'
    rcases update_eq_some_iff.mp ho' with ⟨-, heq⟩ | hrest
    · cases heq
    · exact hrest
  constructor
  · intro o' hv' ho'
    obtain ⟨hne, ho'⟩ := hgone ho'
    have hid : hv'.id ≠ hv.id := fun heq => hne (h.injective o' o hv' hv ho' ho heq)
    unfold View.head
    rw [update_of_ne hid]
    exact h.seen o' hv' ho'
  · intro id hv' hview
    unfold View.head at hview
    by_cases heq : id = hv.id
    · subst heq
      rw [update_self] at hview
      cases hview
    · rw [update_of_ne heq] at hview
      obtain ⟨hid, o', ho'⟩ := h.only id hv' hview
      have hne : o' ≠ o := by
        rintro rfl
        rw [ho] at ho'
        exact heq (by rw [← hid, some.inj ho'])
      exact ⟨hid, o', by rw [update_of_ne hne, ho']⟩
  · exact fun o₁ o₂ hv₁ hv₂ h₁ h₂ => h.injective o₁ o₂ hv₁ hv₂ (hgone h₁).2 (hgone h₂).2
  · exact fun o' hv' ho' => h.id_lt o' hv' (hgone ho').2
  · exact fun o' hv' ho' => h.mode_lt o' hv' (hgone ho').2
  · exact fun o' hv' ho' => h.nodup o' hv' (hgone ho').2
  · exact fun o₁ o₂ hv₁ hv₂ mode h₁ h₂ =>
      h.disjoint o₁ o₂ hv₁ hv₂ mode (hgone h₁).2 (hgone h₂).2

end

end Shows

end Tiri.Protocols.OutputManagement
