import Mathlib.Data.List.Infix

/-!
# What a client sees of the toplevels

The events of the foreign toplevel protocols, the toplevels that a client makes up from them, and a
book of the handles that it was told of.

Results:
* `Keeps.change`, `Keeps.open`, `Keeps.close`: a handle is told of a change, comes or goes;
* each of them leaves at most one toplevel activated after every event.
-/

namespace Tiri.Protocols.ForeignToplevel

open Option Function
open List hiding map_map

/-- `zwlr_foreign_toplevel_handle_v1::State`, as far as it is used. -/
inductive State
  | maximized
  | fullscreen
  | activated
  deriving DecidableEq

/-- The events of `ext_foreign_toplevel_handle_v1` and `zwlr_foreign_toplevel_handle_v1`, up to
`closed`. -/
inductive HandleEvent
  | identifier (identifier : ℕ)
  | title (title : String)
  | appId (appId : String)
  | state (state : List State)
  | outputEnter (wlOutput : ℕ)
  | outputLeave (wlOutput : ℕ)
  | done

/-- What is sent to a manager and to its handles. -/
inductive Event
  | toplevel (handle : ℕ)
  | handle (handle : ℕ) (event : HandleEvent)
  | closed (handle : ℕ)

/-- What a client knows of a toplevel. -/
structure Shown where
  title : Option String
  appId : Option String
  states : List State
  outputs : List ℕ

/-- Nothing is known of a new toplevel. -/
def Shown.new : Shown := ⟨none, none, [], []⟩

/-- A toplevel of a client, which takes it as it is at a `done`. -/
structure HandleView where
  pending : Shown
  current : Shown

/-- The toplevels of a client under their handles. -/
abbrev View := ℕ → Option HandleView

namespace HandleView

variable (hv : HandleView)

/-- A handle gets an event. -/
def receive : HandleEvent → HandleView
  | .identifier _ => hv
  | .title title => { hv with pending.title := some title }
  | .appId appId => { hv with pending.appId := some appId }
  | .state state => { hv with pending.states := state }
  | .outputEnter wlOutput => { hv with pending.outputs := hv.pending.outputs ++ [wlOutput] }
  | .outputLeave wlOutput =>
    { hv with pending.outputs := hv.pending.outputs.filter fun x => x ≠ wlOutput }
  | .done => { hv with current := hv.pending }

/-- A handle gets several events. -/
def receiveAll (events : List HandleEvent) : HandleView :=
  events.foldl receive hv

/-- The toplevel is advertised as activated. -/
def Activated : Prop :=
  .activated ∈ hv.pending.states ∨ .activated ∈ hv.current.states

@[simp] theorem receiveAll_nil (hv : HandleView) : hv.receiveAll [] = hv := rfl

theorem receiveAll_append (hv : HandleView) (events events' : List HandleEvent) :
    hv.receiveAll (events ++ events') = (hv.receiveAll events).receiveAll events' :=
  foldl_append

@[simp] theorem receiveAll_done (hv : HandleView) :
    hv.receiveAll [.done] = ⟨hv.pending, hv.pending⟩ := rfl

@[simp] theorem receiveAll_state (hv : HandleView) (state : List State) :
    hv.receiveAll [.state state] = { hv with pending.states := state } := rfl

@[simp] theorem receiveAll_identifier (hv : HandleView) (identifier : ℕ) :
    hv.receiveAll [.identifier identifier] = hv := rfl

theorem receiveAll_outputEnter (hv : HandleView) (outputs : List ℕ) :
    hv.receiveAll (outputs.map .outputEnter) =
      { hv with pending.outputs := hv.pending.outputs ++ outputs } := by
  induction outputs generalizing hv with
  | nil => simp
  | cons output outputs ih =>
    show (hv.receive (.outputEnter output)).receiveAll (outputs.map .outputEnter) = _
    rw [ih]
    simp [receive]

theorem receiveAll_outputLeave (hv : HandleView) (outputs : List ℕ) :
    hv.receiveAll (outputs.map .outputLeave) =
      { hv with pending.outputs := hv.pending.outputs.filter fun x => x ∉ outputs } := by
  induction outputs generalizing hv with
  | nil => simp
  | cons output outputs ih =>
    show (hv.receive (.outputLeave output)).receiveAll (outputs.map .outputLeave) = _
    rw [ih]
    simp [receive, List.filter_filter, Bool.and_comm]

/-- A toplevel is not activated by events that say nothing of it. -/
theorem not_activated_receiveAll {hv : HandleView} {events : List HandleEvent}
    (h : ¬ hv.Activated) (hevents : ∀ state, .state state ∈ events → .activated ∉ state) :
    ¬ (hv.receiveAll events).Activated := by
  induction events generalizing hv with
  | nil => exact h
  | cons event events ih =>
    refine ih ?_ fun state hstate => hevents state (mem_cons_of_mem _ hstate)
    have hhead := fun state hstate => hevents state (mem_cons.mpr (.inl hstate))
    rw [Activated, not_or] at h ⊢
    cases event with
    | state state => exact ⟨hhead state rfl, h.2⟩
    | done => exact ⟨h.1, h.1⟩
    | identifier | title | appId | outputEnter | outputLeave => exact h

end HandleView

namespace View

/-- A client gets an event. -/
def receive (view : View) : Event → View
  | .toplevel handle => Function.update view handle (some ⟨Shown.new, Shown.new⟩)
  | .handle handle event =>
    Function.update view handle ((view handle).map fun hv => hv.receive event)
  | .closed handle => Function.update view handle none

/-- The toplevels that a client makes up from what it was sent. -/
def ofLog (log : List Event) : View := log.foldl receive fun _ => none

theorem ofLog_append (log events : List Event) :
    ofLog (log ++ events) = events.foldl receive (ofLog log) :=
  foldl_append

/-- Events of one handle change only that one. -/
theorem ofLog_append_handle (log : List Event) (handle : ℕ) (events : List HandleEvent) :
    ofLog (log ++ events.map (.handle handle)) = Function.update (ofLog log) handle
      ((ofLog log handle).map fun hv => hv.receiveAll events) := by
  rw [ofLog_append]
  generalize ofLog log = view
  induction events generalizing view with
  | nil =>
    funext h
    by_cases hh : h = handle
    · subst hh
      rw [update_self]
      exact map_id'.symm
    · rw [update_of_ne hh]
      rfl
  | cons event events ih =>
    rw [map_cons, foldl_cons, ih]
    simp only [receive, update_self, update_idem, map_map]
    rfl

/-- At most one toplevel is advertised as activated. -/
def Single (view : View) : Prop :=
  ∀ h h' hv hv', view h = some hv → view h' = some hv' → hv.Activated → hv'.Activated → h = h'

/-- A toplevel changes: it is not activated, or no other is. -/
theorem Single.update {view : View} (h : Single view) {handle : ℕ} {hv : Option HandleView}
    (hhv : (∀ hv', hv = some hv' → ¬ hv'.Activated) ∨
      ∀ h' hv', h' ≠ handle → view h' = some hv' → ¬ hv'.Activated) :
    Single (Function.update view handle hv) := by
  intro h₁ h₂ hv₁ hv₂ hview₁ hview₂ hact₁ hact₂
  by_contra hne
  -- One of the two is another handle, and the other one is this one.
  have hcase : ∀ h₁ h₂ hv₁ hv₂, Function.update view handle hv h₁ = some hv₁ →
      Function.update view handle hv h₂ = some hv₂ → hv₁.Activated → hv₂.Activated →
      h₁ = handle → h₂ ≠ handle → False := by
    rintro h₁ h₂ hv₁ hv₂ hview₁ hview₂ hact₁ hact₂ rfl hne
    rw [update_self] at hview₁
    rw [update_of_ne hne] at hview₂
    rcases hhv with hquiet | halone
    · exact hquiet hv₁ hview₁ hact₁
    · exact halone h₂ hv₂ hne hview₂ hact₂
  by_cases h₁eq : h₁ = handle
  · exact hcase h₁ h₂ hv₁ hv₂ hview₁ hview₂ hact₁ hact₂ h₁eq (by rw [← h₁eq]; exact Ne.symm hne)
  · by_cases h₂eq : h₂ = handle
    · exact hcase h₂ h₁ hv₂ hv₁ hview₂ hview₁ hact₂ hact₁ h₂eq h₁eq
    · rw [update_of_ne h₁eq] at hview₁
      rw [update_of_ne h₂eq] at hview₂
      exact hne (h h₁ h₂ hv₁ hv₂ hview₁ hview₂ hact₁ hact₂)

/-- At most one toplevel is advertised as activated after every event. -/
def SingleAlong (log : List Event) : Prop := ∀ events, events <+: log → Single (ofLog events)

theorem singleAlong_nil : SingleAlong [] := by
  intro events hevents
  rw [prefix_nil.mp hevents]
  intro _ _ _ _ h
  cases h

variable {log : List Event}

theorem SingleAlong.self (h : SingleAlong log) : Single (ofLog log) :=
  h log (prefix_refl log)

theorem SingleAlong.append {events : List Event} (h : SingleAlong log)
    (hevents : ∀ pre, pre <+: events → Single (ofLog (log ++ pre))) :
    SingleAlong (log ++ events) := by
  intro pre hpre
  rcases prefix_or_prefix_of_prefix hpre (prefix_append log events) with hle | hle
  · exact h pre hle
  · obtain ⟨rest, rfl⟩ := hle
    exact hevents rest ((prefix_append_right_inj log).mp hpre)

/-- The events of a handle, which is not activated, or no other is. -/
theorem SingleAlong.handle (h : SingleAlong log) {handle : ℕ} {events : List HandleEvent}
    (hevents : ((∀ hv, ofLog log handle = some hv → ¬ hv.Activated) ∧
        ∀ state, .state state ∈ events → .activated ∉ state) ∨
      ∀ h' hv', h' ≠ handle → ofLog log h' = some hv' → ¬ hv'.Activated) :
    SingleAlong (log ++ events.map (.handle handle)) := by
  refine h.append fun pre hpre => ?_
  obtain ⟨told, htold, rfl⟩ := prefix_map_iff.mp hpre
  rw [ofLog_append_handle]
  refine h.self.update (hevents.imp_left fun ⟨hquiet, hstates⟩ hv' hhv' => ?_)
  obtain ⟨hv, hhv, rfl⟩ := map_eq_some_iff.mp hhv'
  exact HandleView.not_activated_receiveAll (hquiet hv hhv) fun state hstate =>
    hstates state (htold.subset hstate)

end View

/-! ## The book of the handles -/

/-- Under which handle each surface is known, and what the client has to be told of it. -/
abbrev Book (Surface : Type) := Surface → Option (ℕ × (Shown → Prop))

/-- The client sees what the book says, and nothing else. -/
structure Keeps {Surface : Type} (book : Book Surface) (log : List Event) : Prop where
  told : ∀ surface handle P, book surface = some (handle, P) →
    ∃ shown, View.ofLog log handle = some ⟨shown, shown⟩ ∧ P shown
  known : ∀ handle, View.ofLog log handle ≠ none → ∃ surface P, book surface = some (handle, P)
  injective : ∀ surface surface' handle P P', book surface = some (handle, P) →
    book surface' = some (handle, P') → surface = surface'
  single : View.SingleAlong log

namespace Keeps

variable {Surface : Type} {book book' : Book Surface} {log : List Event}

theorem empty : Keeps (fun _ : Surface => none) [] where
  told := nofun
  known := fun _ h => absurd rfl h
  injective := nofun
  single := View.singleAlong_nil

/-- Another book with the same handles, which says less of them. -/
theorem mono (h : Keeps book log) (hnone : ∀ surface, book surface = none → book' surface = none)
    (hsome : ∀ surface handle P, book surface = some (handle, P) →
      ∃ P', book' surface = some (handle, P') ∧ ∀ shown, P shown → P' shown) : Keeps book' log := by
  have hback : ∀ surface handle P', book' surface = some (handle, P') →
      ∃ P, book surface = some (handle, P) ∧ ∀ shown, P shown → P' shown := by
    intro surface handle P' hbook'
    cases hbook : book surface with
    | none =>
      rw [hnone surface hbook] at hbook'
      cases hbook'
    | some entry =>
      obtain ⟨P'', hbook'', hP⟩ := hsome surface entry.1 entry.2 hbook
      rw [hbook', some.injEq, Prod.mk.injEq] at hbook''
      obtain ⟨rfl, rfl⟩ := hbook''
      exact ⟨entry.2, rfl, hP⟩
  refine ⟨fun surface handle P' hbook' => ?_, fun handle hview => ?_,
    fun surface surface' handle P P' hbook₁ hbook₂ => ?_, h.single⟩
  · obtain ⟨P, hbook, hP⟩ := hback surface handle P' hbook'
    obtain ⟨shown, hview, hshown⟩ := h.told surface handle P hbook
    exact ⟨shown, hview, hP shown hshown⟩
  · obtain ⟨surface, P, hbook⟩ := h.known handle hview
    obtain ⟨P', hbook', -⟩ := hsome surface handle P hbook
    exact ⟨surface, P', hbook'⟩
  · obtain ⟨Q, hQ, -⟩ := hback surface handle P hbook₁
    obtain ⟨Q', hQ', -⟩ := hback surface' handle P' hbook₂
    exact h.injective surface surface' handle Q Q' hQ hQ'

variable {surface : Surface} {handle : ℕ} {P P' : Shown → Prop}

/-- No other toplevel than that of the surface is activated. -/
def Alone (book : Book Surface) (surface : Surface) : Prop :=
  ∀ surface' handle P, surface' ≠ surface → book surface' = some (handle, P) →
    ∀ shown, P shown → .activated ∉ shown.states

/-- The client knows no other activated toplevel. -/
theorem not_activated_of_alone (h : Keeps book log) (halone : Alone book surface)
    (hbook : ∀ handle' P, book surface = some (handle', P) → handle' = handle) :
    ∀ h' hv', h' ≠ handle → View.ofLog log h' = some hv' → ¬ hv'.Activated := by
  intro h' hv' hne hview
  obtain ⟨surface', Q, hQ⟩ := h.known h' (by rw [hview]; nofun)
  obtain ⟨shown, hshown, hQshown⟩ := h.told surface' h' Q hQ
  rw [hview, some.injEq] at hshown
  subst hshown
  have hsurface : surface' ≠ surface := by
    rintro rfl
    exact hne (hbook h' Q hQ)
  have hnot := halone surface' h' Q hsurface hQ shown hQshown
  rintro (hact | hact)
  · exact hnot hact
  · exact hnot hact

variable [DecidableEq Surface] {events : List HandleEvent}

section

variable (h : Keeps book log)
include h

/-- A toplevel is told of a change. -/
theorem change (hbook : book surface = some (handle, P))
    (hevents : ∀ shown, P shown → ∃ shown',
      HandleView.receiveAll ⟨shown, shown⟩ events = ⟨shown', shown'⟩ ∧ P' shown')
    (hactive : ((∀ shown, P shown → .activated ∉ shown.states) ∧
        ∀ state, .state state ∈ events → .activated ∉ state) ∨ Alone book surface) :
    Keeps (Function.update book surface (some (handle, P')))
      (log ++ events.map (.handle handle)) := by
  obtain ⟨shown, hview, hshown⟩ := h.told surface handle P hbook
  obtain ⟨shown', hreceive, hshown'⟩ := hevents shown hshown
  refine ⟨fun surface' handle' Q hQ => ?_, fun handle' hview' => ?_,
    fun surface₁ surface₂ handle' Q Q' hQ hQ' => ?_, ?_⟩
  · rw [View.ofLog_append_handle]
    by_cases heq : surface' = surface
    · subst heq
      rw [update_self, some.injEq, Prod.mk.injEq] at hQ
      obtain ⟨rfl, rfl⟩ := hQ
      rw [update_self, hview, map_some, hreceive]
      exact ⟨shown', rfl, hshown'⟩
    · rw [update_of_ne heq] at hQ
      have hne : handle' ≠ handle := by
        rintro rfl
        exact heq (h.injective surface' surface handle' Q P hQ hbook)
      rw [update_of_ne hne]
      exact h.told surface' handle' Q hQ
  · rw [View.ofLog_append_handle] at hview'
    by_cases heq : handle' = handle
    · subst heq
      exact ⟨surface, P', update_self ..⟩
    · rw [update_of_ne heq] at hview'
      obtain ⟨surface', Q, hQ⟩ := h.known handle' hview'
      refine ⟨surface', Q, ?_⟩
      rw [update_of_ne]
      · exact hQ
      · rintro rfl
        rw [hbook, some.injEq, Prod.mk.injEq] at hQ
        exact heq hQ.1.symm
  · have hhandle : ∀ surface' Q, Function.update book surface (some (handle, P')) surface' =
        some (handle', Q) → ∃ Q, book surface' = some (handle', Q) := by
      intro surface' Q hQ
      by_cases heq : surface' = surface
      · subst heq
        rw [update_self, some.injEq, Prod.mk.injEq] at hQ
        exact ⟨P, by rw [hbook, hQ.1]⟩
      · rw [update_of_ne heq] at hQ
        exact ⟨Q, hQ⟩
    obtain ⟨R, hR⟩ := hhandle surface₁ Q hQ
    obtain ⟨R', hR'⟩ := hhandle surface₂ Q' hQ'
    exact h.injective surface₁ surface₂ handle' R R' hR hR'
  · rcases hactive with ⟨hquiet, hstates⟩ | halone
    · refine h.single.handle (.inl ⟨fun hv hhv => ?_, hstates⟩)
      rw [hview, some.injEq] at hhv
      subst hhv
      exact not_or.mpr ⟨hquiet shown hshown, hquiet shown hshown⟩
    · refine h.single.handle (.inr (h.not_activated_of_alone halone fun handle' Q hQ => ?_))
      rw [hbook, some.injEq, Prod.mk.injEq] at hQ
      exact hQ.1.symm

/-- A toplevel that nothing was told of yet. -/
theorem toplevel (hnone : book surface = none)
    (hfresh : ∀ surface' P, book surface' ≠ some (handle, P)) :
    Keeps (Function.update book surface (some (handle, fun shown => shown = Shown.new)))
      (log ++ [.toplevel handle]) := by
  have hview : View.ofLog (log ++ [.toplevel handle]) =
      Function.update (View.ofLog log) handle (some ⟨Shown.new, Shown.new⟩) :=
    View.ofLog_append log [.toplevel handle]
  have hsame : ∀ surface' handle' Q,
      Function.update book surface (some (handle, fun shown => shown = Shown.new)) surface' =
        some (handle', Q) → surface' = surface ∧ handle' = handle ∧ (fun shown => shown = Shown.new) = Q
        ∨ surface' ≠ surface ∧ handle' ≠ handle ∧ book surface' = some (handle', Q) := by
    intro surface' handle' Q hQ
    by_cases heq : surface' = surface
    · subst heq
      rw [update_self, some.injEq, Prod.mk.injEq] at hQ
      exact .inl ⟨rfl, hQ.1.symm, hQ.2⟩
    · rw [update_of_ne heq] at hQ
      refine .inr ⟨heq, ?_, hQ⟩
      rintro rfl
      exact hfresh surface' Q hQ
  refine ⟨fun surface' handle' Q hQ => ?_, fun handle' hview' => ?_,
    fun surface₁ surface₂ handle' Q Q' hQ hQ' => ?_, h.single.append fun pre hpre => ?_⟩
  · rw [hview]
    rcases hsame surface' handle' Q hQ with ⟨rfl, rfl, rfl⟩ | ⟨-, hne, hQ⟩
    · exact ⟨Shown.new, update_self .., rfl⟩
    · rw [update_of_ne hne]
      exact h.told surface' handle' Q hQ
  · rw [hview] at hview'
    by_cases heq : handle' = handle
    · subst heq
      exact ⟨surface, _, update_self ..⟩
    · rw [update_of_ne heq] at hview'
      obtain ⟨surface', Q, hQ⟩ := h.known handle' hview'
      refine ⟨surface', Q, ?_⟩
      rw [update_of_ne]
      · exact hQ
      · rintro rfl
        rw [hnone] at hQ
        cases hQ
  · rcases hsame surface₁ handle' Q hQ with ⟨rfl, rfl, -⟩ | ⟨-, hne, hQ⟩
    · rcases hsame surface₂ handle' Q' hQ' with ⟨heq, -⟩ | ⟨-, hne, -⟩
      · exact heq.symm
      · exact absurd rfl hne
    · rcases hsame surface₂ handle' Q' hQ' with ⟨-, heq, -⟩ | ⟨-, -, hQ'⟩
      · exact absurd heq hne
      · exact h.injective surface₁ surface₂ handle' Q Q' hQ hQ'
  · rcases prefix_cons_iff.mp hpre with rfl | ⟨rest, rfl, hrest⟩
    · rw [append_nil]
      exact h.single.self
    · rw [prefix_nil.mp hrest, hview]
      refine h.single.self.update (.inl fun hv' hhv' => ?_)
      cases hhv'
      rintro (hact | hact) <;> cases hact

/-- A new toplevel is told of. -/
theorem «open» (hnone : book surface = none)
    (hfresh : ∀ surface' P, book surface' ≠ some (handle, P))
    (hevents : ∃ shown', HandleView.receiveAll ⟨Shown.new, Shown.new⟩ events = ⟨shown', shown'⟩ ∧
      P' shown')
    (hactive : (∀ state, .state state ∈ events → .activated ∉ state) ∨ Alone book surface) :
    Keeps (Function.update book surface (some (handle, P')))
      (log ++ .toplevel handle :: events.map (.handle handle)) := by
  obtain ⟨shown', hreceive, hshown'⟩ := hevents
  have hquiet : ∀ shown : Shown, shown = Shown.new → .activated ∉ shown.states := by
    rintro shown rfl hact
    cases hact
  have halone : Alone book surface → Alone (Function.update book surface
      (some (handle, fun shown => shown = Shown.new))) surface := by
    intro halone surface' handle' Q hne hQ
    rw [update_of_ne hne] at hQ
    exact halone surface' handle' Q hne hQ
  have hchange : Keeps (Function.update (Function.update book surface
      (some (handle, fun shown => shown = Shown.new))) surface (some (handle, P')))
      (log ++ [.toplevel handle] ++ events.map (.handle handle)) :=
    (h.toplevel hnone hfresh).change (update_self ..)
      (fun shown hshown => ⟨shown', by rw [hshown, hreceive], hshown'⟩)
      (hactive.imp (fun hstates => ⟨hquiet, hstates⟩) halone)
  rw [update_idem, append_assoc] at hchange
  exact hchange

/-- A toplevel goes. -/
theorem close (hbook : book surface = some (handle, P)) :
    Keeps (Function.update book surface none) (log ++ [.closed handle]) := by
  have hview : View.ofLog (log ++ [.closed handle]) =
      Function.update (View.ofLog log) handle none :=
    View.ofLog_append log [.closed handle]
  have hother : ∀ surface' handle' Q, Function.update book surface none surface' =
      some (handle', Q) → handle' ≠ handle ∧ book surface' = some (handle', Q) := by
    intro surface' handle' Q hQ
    by_cases heq : surface' = surface
    · subst heq
      rw [update_self] at hQ
      cases hQ
    · rw [update_of_ne heq] at hQ
      refine ⟨?_, hQ⟩
      rintro rfl
      exact heq (h.injective surface' surface handle' Q P hQ hbook)
  refine ⟨fun surface' handle' Q hQ => ?_, fun handle' hview' => ?_,
    fun surface₁ surface₂ handle' Q Q' hQ hQ' => ?_, h.single.append fun pre hpre => ?_⟩
  · obtain ⟨hne, hQ⟩ := hother surface' handle' Q hQ
    rw [hview, update_of_ne hne]
    exact h.told surface' handle' Q hQ
  · rw [hview] at hview'
    have hne : handle' ≠ handle := by
      rintro rfl
      rw [update_self] at hview'
      exact hview' rfl
    rw [update_of_ne hne] at hview'
    obtain ⟨surface', Q, hQ⟩ := h.known handle' hview'
    refine ⟨surface', Q, ?_⟩
    rw [update_of_ne]
    · exact hQ
    · rintro rfl
      rw [hbook, some.injEq, Prod.mk.injEq] at hQ
      exact hne hQ.1.symm
  · exact h.injective surface₁ surface₂ handle' Q Q' (hother surface₁ handle' Q hQ).2
      (hother surface₂ handle' Q' hQ').2
  · rcases prefix_cons_iff.mp hpre with rfl | ⟨rest, rfl, hrest⟩
    · rw [append_nil]
      exact h.single.self
    · rw [prefix_nil.mp hrest, hview]
      exact h.single.self.update (.inl nofun)

end

end Keeps

end Tiri.Protocols.ForeignToplevel
