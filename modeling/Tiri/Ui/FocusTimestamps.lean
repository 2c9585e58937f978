import Tiri.Lib.EventLoop
import Tiri.Lib.Run
import Tiri.Ui.KeyboardFocus

/-!
# Focus timestamps of the recent windows

`State::update_keyboard_focus` (`src/niri.rs`, lines 1281–1340) and
`Niri::mru_apply_keyboard_commit`: a window that has no focus timestamp gets one with the focus,
another one only once the focus has stayed for the debounce period, or once the user interacts.

Times are in nanoseconds of the monotonic clock.  What the new focus is, and what a key is bound
to, comes with the event.

Results:
* `lockedIn_step`: a step restamps a window that has held the focus, exactly under `Careful`;
* `lockedIn_iff_careful`: the same along every run, in which at most one timer is registered.
-/

namespace Tiri.Ui.FocusTimestamps

open Option List Nat EventLoop

variable {Surface WlSurface Token L : Type}

/-! ## The state -/

/-- `Timer`, from when it is started. -/
structure Timer where
  start : ℕ
  duration : ℕ

/-- `Mapped`, as far as the recent windows read it. -/
structure Mapped (Surface : Type) where
  surface : Surface
  id : ℕ
  focusTimestamp : Option ℕ

structure PendingMruCommit (Token : Type) where
  id : ℕ
  token : Token
  stamp : ℕ

/-- The compositor, as far as focus timestamps go: `windows` are those of the workspaces, and
`moving` is the one in an interactive move. -/
structure State (Surface WlSurface Token L : Type) where
  now : ℕ
  debounceMs : ℕ
  nextId : ℕ
  moving : Option (Mapped Surface)
  windows : List (Mapped Surface)
  keyboardFocus : KeyboardFocus Surface WlSurface
  pendingMruCommit : Option (PendingMruCommit Token)
  eventLoop : L

/-- `Duration::from_millis`. -/
def fromMillis (ms : ℕ) : ℕ := ms * 1000000

def Mapped.setFocusTimestamp (self : Mapped Surface) (timestamp : ℕ) : Mapped Surface :=
  { self with focusTimestamp := some timestamp }

/-- Give the window a timestamp, if it is the one with this id. -/
def Mapped.stampIf (id timestamp : ℕ) (self : Mapped Surface) : Mapped Surface :=
  if self.id = id then self.setFocusTimestamp timestamp else self

namespace State

variable (self : State Surface WlSurface Token L)

/-- The windows of the layout. -/
def layoutWindows : List (Mapped Surface) := self.moving.toList ++ self.windows

/-- Give the window `id` a timestamp. -/
def stamp (id timestamp : ℕ) : State Surface WlSurface Token L :=
  { self with
    moving := self.moving.map (Mapped.stampIf id timestamp)
    windows := self.windows.map (Mapped.stampIf id timestamp) }

def mruApplyKeyboardCommit [EventLoop L Token Timer] : State Surface WlSurface Token L :=
  match self.pendingMruCommit with
  | none => self
  | some pending =>
    let self : State Surface WlSurface Token L := { self with
      pendingMruCommit := none
      eventLoop := EventLoop.remove self.eventLoop pending.token }
    match self.windows.find? (·.id = pending.id) with
    | none => self
    | some window => self.stamp window.id pending.stamp

variable [DecidableEq Surface]

/-- `find_window_and_output_mut`. -/
def findWindow (surface : Surface) : Option (Mapped Surface) :=
  self.layoutWindows.find? (·.surface = surface)

/-- What the window that gets the focus is told. -/
def focusMapped [EventLoop L Token Timer] (mapped : Mapped Surface) :
    State Surface WlSurface Token L :=
  let stamp := self.now
  let debounce := fromMillis self.debounceMs
  if mapped.focusTimestamp = none ∨ debounce = 0 then
    self.stamp mapped.id stamp
  else
    let (focusToken, eventLoop) := EventLoop.insertSource self.eventLoop ⟨stamp, debounce⟩
    { self with
      pendingMruCommit := some ⟨mapped.id, focusToken, stamp⟩
      eventLoop :=
        match self.pendingMruCommit with
        | some pending => EventLoop.remove eventLoop pending.token
        | none => eventLoop }

/-- `update_keyboard_focus`, once it knows the focus. -/
def updateKeyboardFocus [DecidableEq WlSurface] [EventLoop L Token Timer]
    (focus : KeyboardFocus Surface WlSurface) : State Surface WlSurface Token L :=
  if self.keyboardFocus = focus then self
  else
    let self :=
      match focus with
      | .layout (some surface) =>
        match self.findWindow surface with
        | some mapped => self.focusMapped mapped
        | none => self
      | _ => self
    { self with keyboardFocus := focus }

end State

/-! ## Events -/

/-- What happens. -/
inductive Event (Surface WlSurface Token : Type)
  | elapse (duration : ℕ)
  | reloadConfig (debounceMs : ℕ)
  | map (surface : Surface)
  | unmap (surface : Surface)
  | interactiveMoveBegin (surface : Surface)
  | interactiveMoveEnd
  | updateKeyboardFocus (focus : KeyboardFocus Surface WlSurface)
  /-- The event loop calls back the timer under the token. -/
  | dispatch (token : Token)
  /-- A key that `should_intercept_key` forwards or not, and that may have a hardcoded bind. -/
  | onKeyboard (pressed forward hardcoded : Bool)
  /-- `Action::FocusWindowPrevious`, and whether there is another window. -/
  | focusWindowPrevious (other : Bool)
  /-- `Action::MruAdvance`, while the user interface is open or not, and enabled or not. -/
  | mruAdvance (isOpen on : Bool)

variable [DecidableEq Surface] [DecidableEq WlSurface] [EventLoop L Token Timer]

/-- `KeyboardFocus::is_overview`. -/
def isOverview : KeyboardFocus Surface WlSurface → Bool
  | .overview => true
  | _ => false

variable (s : State Surface WlSurface Token L)

/-- The timer under the token is due. -/
def Due (token : Token) : Prop :=
  match (EventLoop.registered s.eventLoop token : Option Timer) with
  | some timer => timer.start + timer.duration ≤ s.now
  | none => False

instance (s : State Surface WlSurface Token L) (token : Token) : Decidable (Due s token) := by
  unfold Due
  split <;> infer_instance

/-- The event applies a pending commit: the end of the period, or an interaction. -/
def Commits : Event Surface WlSurface Token → Prop
  | .dispatch token => Due s token
  | .onKeyboard pressed forward hardcoded =>
    forward = true ∧ ¬(isOverview s.keyboardFocus = true ∧ pressed = true ∧ hardcoded = true)
  | .focusWindowPrevious other => other = true
  | .mruAdvance isOpen on => isOpen = false ∧ on = true
  | _ => False

instance (s : State Surface WlSurface Token L) (e : Event Surface WlSurface Token) :
    Decidable (Commits s e) := by
  cases e <;> unfold Commits <;> infer_instance

/-- One event. -/
def step (e : Event Surface WlSurface Token) : Option (State Surface WlSurface Token L) :=
  match e with
  | .elapse duration => some { s with now := s.now + duration }
  | .reloadConfig debounceMs => some { s with debounceMs := debounceMs }
  | .map surface =>
    if surface ∈ s.layoutWindows.map Mapped.surface then none
    else some { s with
      nextId := s.nextId + 1
      windows := s.windows ++ [⟨surface, s.nextId, none⟩] }
  | .unmap surface =>
    some { s with
      moving := s.moving.filter (·.surface ≠ surface)
      windows := s.windows.filter (·.surface ≠ surface) }
  | .interactiveMoveBegin surface =>
    match s.moving, s.windows.find? (·.surface = surface) with
    | none, some mapped =>
      some { s with moving := some mapped, windows := s.windows.filter (·.surface ≠ surface) }
    | _, _ => none
  | .interactiveMoveEnd =>
    some { s with moving := none, windows := s.windows ++ s.moving.toList }
  | .updateKeyboardFocus focus => some (s.updateKeyboardFocus focus)
  | .dispatch token =>
    if Due s token then
      -- `TimeoutAction::Drop` after the callback.
      let s := s.mruApplyKeyboardCommit
      some { s with eventLoop := EventLoop.remove s.eventLoop token }
    else none
  | e => if Commits s e then some s.mruApplyKeyboardCommit else some s

/-! ## What the timestamps are for -/

/-- The compositor, and when the keyboard focus last changed. -/
structure Watched (Surface WlSurface Token L : Type) where
  state : State Surface WlSurface Token L
  since : ℕ

variable (w : Watched Surface WlSurface Token L)

/-- One event, watching the keyboard focus. -/
def watch (e : Event Surface WlSurface Token) : Option (Watched Surface WlSurface Token L) :=
  (step w.state e).map fun s =>
    ⟨s, if s.keyboardFocus = w.state.keyboardFocus then w.since else s.now⟩

/-- Before there are windows. -/
def start (now debounceMs : ℕ) (eventLoop : L) : Watched Surface WlSurface Token L :=
  ⟨⟨now, debounceMs, 0, none, [], .layout none, none, eventLoop⟩, now⟩

/-- The step changes the timestamp of a window that has one. -/
def Restamps (s' : State Surface WlSurface Token L) (mapped : Mapped Surface) (stamp : ℕ) : Prop :=
  mapped ∈ s.layoutWindows ∧ mapped.focusTimestamp ≠ none ∧
    mapped.focusTimestamp ≠ some stamp ∧
    ∃ mapped' ∈ s'.layoutWindows, mapped'.id = mapped.id ∧ mapped'.focusTimestamp = some stamp

/-- The debounce period that began at `stamp` is over: it is empty, or the timer that was started
then is due.  An interaction does not wait for it. -/
def Elapsed (e : Event Surface WlSurface Token) (stamp : ℕ) : Prop :=
  match e with
  | .updateKeyboardFocus _ => fromMillis s.debounceMs = 0
  | .dispatch token => ∃ duration,
    EventLoop.registered s.eventLoop token = some (⟨stamp, duration⟩ : Timer) ∧
      stamp + duration ≤ s.now
  | _ => True

/-- The window has the keyboard focus and has kept it since `stamp`, until the debounce period
was over or an interaction came. -/
structure KeptFocus (w w' : Watched Surface WlSurface Token L) (e : Event Surface WlSurface Token)
    (mapped : Mapped Surface) (stamp : ℕ) : Prop where
  focused : w'.state.keyboardFocus = .layout (some mapped.surface)
  kept : w'.since ≤ stamp
  elapsed : Elapsed w.state e stamp

/-- No two timers of pending commits are registered. -/
def OneTimer : Prop :=
  ∀ (t t' : Token) (c c' : Timer), EventLoop.registered s.eventLoop t = some c →
    EventLoop.registered s.eventLoop t' = some c' → t = t'

/-- What the step is to do: a window with a timestamp gets a new one only if it kept the focus,
and there is one timer at most. -/
def LockedIn (e : Event Surface WlSurface Token) : Prop :=
  ∀ w', watch w e = some w' → OneTimer w.state ∧ OneTimer w'.state ∧
    ∀ mapped stamp, Restamps w.state w'.state mapped stamp → KeptFocus w w' e mapped stamp

/-- Where the event applies a commit that gives a window another timestamp, that window has the
keyboard focus, and its timestamp is older. -/
def Careful (e : Event Surface WlSurface Token) : Prop :=
  Commits w.state e → ∀ pending, w.state.pendingMruCommit = some pending →
    ∀ mapped ∈ w.state.windows, mapped.id = pending.id →
      mapped.focusTimestamp ≠ some pending.stamp →
      w.state.keyboardFocus = .layout (some mapped.surface) ∧
        ∀ timestamp, mapped.focusTimestamp = some timestamp → timestamp < pending.stamp

instance (w : Watched Surface WlSurface Token L) (e : Event Surface WlSurface Token) :
    Decidable (Careful w e) :=
  match hp : w.state.pendingMruCommit with
  | none => isTrue fun _ p hp' => absurd (hp.symm.trans hp') (some_ne_none p).symm
  | some pending =>
    decidable_of_iff (Commits w.state e → ∀ mapped ∈ w.state.windows, mapped.id = pending.id →
      mapped.focusTimestamp ≠ some pending.stamp →
      w.state.keyboardFocus = .layout (some mapped.surface) ∧
        ∀ timestamp ∈ mapped.focusTimestamp, timestamp < pending.stamp)
      ⟨fun hc hcommits _ hp' => some.inj (hp.symm.trans hp') ▸ hc hcommits,
        fun hc hcommits => hc hcommits pending hp⟩

/-! ## The invariant -/

/-- What the focus events leave in the windows, in the pending commit and in the event loop. -/
structure Inv (w : Watched Surface WlSurface Token L) : Prop where
  ids : (w.state.layoutWindows.map Mapped.id).Nodup
  surfaces : (w.state.layoutWindows.map Mapped.surface).Nodup
  fresh : ∀ m ∈ w.state.layoutWindows, m.id < w.state.nextId
  stamped : ∀ m ∈ w.state.layoutWindows, ∀ t, m.focusTimestamp = some t → t ≤ w.state.now
  since : w.since ≤ w.state.now
  timers : ∀ (t : Token) (c : Timer), EventLoop.registered w.state.eventLoop t = some c →
    ∃ p, w.state.pendingMruCommit = some p ∧ p.token = t ∧ c.start = p.stamp
  pending : ∀ p, w.state.pendingMruCommit = some p →
    p.stamp ≤ w.state.now ∧ p.id < w.state.nextId ∧
      ∀ m ∈ w.state.layoutWindows, m.id = p.id → ∃ t, m.focusTimestamp = some t ∧
        (w.state.keyboardFocus = .layout (some m.surface) →
          (p.stamp = w.since ∧ t ≤ w.since) ∨ (t = w.since ∧ p.stamp ≤ w.since))

variable {w : Watched Surface WlSurface Token L} {e : Event Surface WlSurface Token}
variable {w' : Watched Surface WlSurface Token L}

section

omit [DecidableEq Surface] [DecidableEq WlSurface]

theorem Inv.oneTimer (h : Inv w) : OneTimer w.state := by
  intro t t' c c' ht ht'
  obtain ⟨p, hp, hpt, -⟩ := h.timers t c ht
  obtain ⟨p', hp', hpt', -⟩ := h.timers t' c' ht'
  rw [hp, some.injEq] at hp'
  rw [← hpt, ← hpt', hp']

theorem start_inv (now debounceMs : ℕ) {eventLoop : L}
    (hempty : ∀ (t : Token), EventLoop.registered eventLoop t = (none : Option Timer)) :
    Inv (start now debounceMs eventLoop : Watched Surface WlSurface Token L) where
  ids := nodup_nil
  surfaces := nodup_nil
  fresh := by simp [start, State.layoutWindows]
  stamped := by simp [start, State.layoutWindows]
  since := le_refl now
  timers := by
    intro t c ht
    have hnone : EventLoop.registered eventLoop t = some c := ht
    rw [hempty] at hnone
    cases hnone
  pending := by
    intro p hp
    cases hp

end

/-! ## Stamping a window -/

section Stamping

omit [DecidableEq Surface] [DecidableEq WlSurface] [EventLoop L Token Timer]

variable (id timestamp : ℕ) (m : Mapped Surface)

@[simp] theorem stampIf_id : (m.stampIf id timestamp).id = m.id := by
  unfold Mapped.stampIf
  split_ifs <;> rfl

@[simp] theorem stampIf_surface : (m.stampIf id timestamp).surface = m.surface := by
  unfold Mapped.stampIf
  split_ifs <;> rfl

theorem stampIf_focusTimestamp :
    (m.stampIf id timestamp).focusTimestamp =
      if m.id = id then some timestamp else m.focusTimestamp := by
  unfold Mapped.stampIf
  split_ifs <;> rfl

variable (ms : List (Mapped Surface))

theorem map_id_stampIf :
    (ms.map (Mapped.stampIf id timestamp)).map Mapped.id = ms.map Mapped.id := by
  rw [List.map_map]
  exact map_congr_left fun m _ => stampIf_id ..

theorem map_surface_stampIf :
    (ms.map (Mapped.stampIf id timestamp)).map Mapped.surface = ms.map Mapped.surface := by
  rw [List.map_map]
  exact map_congr_left fun m _ => stampIf_surface ..

theorem layoutWindows_stamp :
    (s.stamp id timestamp).layoutWindows = s.layoutWindows.map (Mapped.stampIf id timestamp) := by
  unfold State.stamp State.layoutWindows
  cases s.moving <;> simp

/-- Two windows of the layout with one id are the same. -/
theorem eq_of_id {ms : List (Mapped Surface)} (h : (ms.map Mapped.id).Nodup) {m m' : Mapped Surface}
    (hm : m ∈ ms) (hm' : m' ∈ ms) (hid : m.id = m'.id) : m = m' :=
  inj_on_of_nodup_map h hm hm' hid

theorem eq_of_surface {ms : List (Mapped Surface)} (h : (ms.map Mapped.surface).Nodup)
    {m m' : Mapped Surface} (hm : m ∈ ms) (hm' : m' ∈ ms) (hs : m.surface = m'.surface) : m = m' :=
  inj_on_of_nodup_map h hm hm' hs

/-- A state with the same windows restamps none. -/
theorem not_restamps {s s' : State Surface WlSurface Token L}
    (hids : (s.layoutWindows.map Mapped.id).Nodup)
    (hwindows : ∀ m ∈ s'.layoutWindows, m.focusTimestamp ≠ none → m ∈ s.layoutWindows)
    (mapped : Mapped Surface) (stamp : ℕ) : ¬Restamps s s' mapped stamp := by
  rintro ⟨hm, -, hne, m', hm', hid, hstamp⟩
  have hmem := hwindows m' hm' (by rw [hstamp]; exact some_ne_none _)
  rw [eq_of_id hids hmem hm hid] at hstamp
  exact hne hstamp

/-- Stamping the window `id` restamps that window only. -/
theorem restamps_stamp {s s' : State Surface WlSurface Token L} {id timestamp : ℕ}
    (hids : (s.layoutWindows.map Mapped.id).Nodup)
    (hwindows : s'.layoutWindows = s.layoutWindows.map (Mapped.stampIf id timestamp))
    {mapped : Mapped Surface} {stamp : ℕ} : Restamps s s' mapped stamp ↔
      mapped ∈ s.layoutWindows ∧ mapped.focusTimestamp ≠ none ∧
        mapped.focusTimestamp ≠ some stamp ∧ mapped.id = id ∧ stamp = timestamp := by
  constructor
  · rintro ⟨hm, hsome, hne, m', hm', hid, hstamp⟩
    rw [hwindows] at hm'
    obtain ⟨m₀, hm₀, rfl⟩ := mem_map.mp hm'
    rw [stampIf_id] at hid
    obtain rfl := eq_of_id hids hm₀ hm hid
    rw [stampIf_focusTimestamp] at hstamp
    split_ifs at hstamp with hmid
    · exact ⟨hm, hsome, hne, hmid, (some.inj hstamp).symm⟩
    · exact absurd hstamp hne
  · rintro ⟨hm, hsome, hne, hid, rfl⟩
    refine ⟨hm, hsome, hne, mapped.stampIf id stamp, ?_, stampIf_id .., ?_⟩
    · rw [hwindows]
      exact mem_map_of_mem hm
    · rw [stampIf_focusTimestamp, if_pos hid]

end Stamping

/-! ## Steps keep the invariant -/

section Steps

omit [DecidableEq Surface] [DecidableEq WlSurface]

variable {w : Watched Surface WlSurface Token L}

variable {s : State Surface WlSurface Token L} {focus : KeyboardFocus Surface WlSurface}

/-- Windows leave or change places, and time passes. -/
theorem Inv.rearrange (h : Inv w) (hids : (s.layoutWindows.map Mapped.id).Nodup)
    (hsurfaces : (s.layoutWindows.map Mapped.surface).Nodup)
    (hsub : ∀ m ∈ s.layoutWindows, m ∈ w.state.layoutWindows) (hnow : w.state.now ≤ s.now)
    (hnext : s.nextId = w.state.nextId) (hfocus : s.keyboardFocus = w.state.keyboardFocus)
    (hpending : s.pendingMruCommit = w.state.pendingMruCommit)
    (hloop : s.eventLoop = w.state.eventLoop) : Inv ⟨s, w.since⟩ where
  ids := hids
  surfaces := hsurfaces
  fresh := by
    intro m hm
    rw [hnext]
    exact h.fresh m (hsub m hm)
  stamped := fun m hm t ht => (h.stamped m (hsub m hm) t ht).trans hnow
  since := h.since.trans hnow
  timers := by
    rw [hloop, hpending]
    exact h.timers
  pending := by
    intro p hp
    rw [hpending] at hp
    obtain ⟨hstamp, hid, hmapped⟩ := h.pending p hp
    rw [hnext, hfocus]
    exact ⟨hstamp.trans hnow, hid, fun m hm => hmapped m (hsub m hm)⟩

/-- A new window. -/
theorem Inv.mapped (h : Inv w) {surface : Surface}
    (hnew : surface ∉ w.state.layoutWindows.map Mapped.surface) :
    Inv ⟨{ w.state with
      nextId := w.state.nextId + 1
      windows := w.state.windows ++ [⟨surface, w.state.nextId, none⟩] }, w.since⟩ := by
  have hwindows : State.layoutWindows ({ w.state with
      nextId := w.state.nextId + 1
      windows := w.state.windows ++ [⟨surface, w.state.nextId, none⟩] }) =
      w.state.layoutWindows ++ [⟨surface, w.state.nextId, none⟩] := by
    simp [State.layoutWindows]
  have hid : w.state.nextId ∉ w.state.layoutWindows.map Mapped.id := by
    intro hmem
    obtain ⟨m, hm, hmid⟩ := mem_map.mp hmem
    have hlt := h.fresh m hm
    omega
  constructor
  · rw [hwindows, map_append, map_singleton, ← concat_eq_append]
    exact h.ids.concat hid
  · rw [hwindows, map_append, map_singleton, ← concat_eq_append]
    exact h.surfaces.concat hnew
  · intro m hm
    rw [hwindows, mem_append, mem_singleton] at hm
    show m.id < w.state.nextId + 1
    rcases hm with hm | rfl
    · have hlt := h.fresh m hm
      omega
    · exact lt_succ_self _
  · intro m hm t ht
    rw [hwindows, mem_append, mem_singleton] at hm
    rcases hm with hm | rfl
    · exact h.stamped m hm t ht
    · cases ht
  · exact h.since
  · exact h.timers
  · intro p hp
    obtain ⟨hstamp, hlt, hmapped⟩ := h.pending p hp
    refine ⟨hstamp, lt_succ_of_lt hlt, fun m hm hmid => ?_⟩
    rw [hwindows, mem_append, mem_singleton] at hm
    rcases hm with hm | rfl
    · exact hmapped m hm hmid
    · have hsame : w.state.nextId = p.id := hmid
      omega

/-- With no commit pending, a window gets a timestamp. -/
theorem Inv.stampNone (h : Inv w) (id timestamp : ℕ)
    (hwindows : s.layoutWindows = w.state.layoutWindows ∨
      s.layoutWindows = w.state.layoutWindows.map (Mapped.stampIf id timestamp))
    (hstamp : timestamp ≤ w.state.now) (hnow : s.now = w.state.now)
    (hnext : s.nextId = w.state.nextId) (hpending : s.pendingMruCommit = none)
    (hloop : ∀ t, EventLoop.registered s.eventLoop t = (none : Option Timer)) :
    Inv ⟨s, w.since⟩ := by
  have hids : s.layoutWindows.map Mapped.id = w.state.layoutWindows.map Mapped.id := by
    rcases hwindows with hsame | hset
    · rw [hsame]
    · rw [hset, map_id_stampIf]
  have hsurfaces : s.layoutWindows.map Mapped.surface = w.state.layoutWindows.map Mapped.surface := by
    rcases hwindows with hsame | hset
    · rw [hsame]
    · rw [hset, map_surface_stampIf]
  constructor
  · rw [hids]
    exact h.ids
  · rw [hsurfaces]
    exact h.surfaces
  · intro m hm
    rw [hnext]
    obtain ⟨m₀, hm₀, hid⟩ := mem_map.mp (hids ▸ mem_map_of_mem hm)
    rw [← hid]
    exact h.fresh m₀ hm₀
  · intro m hm t ht
    rw [hnow]
    rcases hwindows with hsame | hset
    · rw [hsame] at hm
      exact h.stamped m hm t ht
    · rw [hset] at hm
      obtain ⟨m₀, hm₀, rfl⟩ := mem_map.mp hm
      rw [stampIf_focusTimestamp] at ht
      split_ifs at ht
      · rw [← some.inj ht]
        exact hstamp
      · exact h.stamped m₀ hm₀ t ht
  · rw [hnow]
    exact h.since
  · intro t c ht
    rw [hloop] at ht
    cases ht
  · intro p hp
    rw [hpending] at hp
    cases hp

/-- No timer is left once the one of the pending commit is removed. -/
theorem Inv.no_timer (h : Inv w) {p : PendingMruCommit Token}
    (hp : w.state.pendingMruCommit = some p) (t : Token) :
    EventLoop.registered (EventLoop.remove w.state.eventLoop p.token) t = (none : Option Timer) := by
  rw [eq_none_iff_forall_ne_some]
  intro c hc
  obtain ⟨hne, hc⟩ := registered_remove_iff.mp hc
  obtain ⟨p', hp', htoken, -⟩ := h.timers t c hc
  rw [hp, some.injEq] at hp'
  subst hp'
  exact hne htoken.symm

/-- What `mru_apply_keyboard_commit` does. -/
inductive Committed (s s' : State Surface WlSurface Token L) : Prop
  | idle (pending : s.pendingMruCommit = none) (same : s' = s)
  | gone (p : PendingMruCommit Token) (pending : s.pendingMruCommit = some p)
      (absent : ∀ m ∈ s.windows, m.id ≠ p.id)
      (same : s' = { s with
        pendingMruCommit := none, eventLoop := EventLoop.remove s.eventLoop p.token })
  | stamped (p : PendingMruCommit Token) (mapped : Mapped Surface)
      (pending : s.pendingMruCommit = some p) (mem : mapped ∈ s.windows) (id : mapped.id = p.id)
      (same : s' = State.stamp { s with
        pendingMruCommit := none
        eventLoop := EventLoop.remove s.eventLoop p.token } p.id p.stamp)

theorem mruApplyKeyboardCommit_committed (s : State Surface WlSurface Token L) :
    Committed s s.mruApplyKeyboardCommit := by
  unfold State.mruApplyKeyboardCommit
  cases hp : s.pendingMruCommit with
  | none => exact .idle hp rfl
  | some p =>
    dsimp only
    cases hm : s.windows.find? (·.id = p.id) with
    | none =>
      refine .gone p hp ?_ rfl
      intro m hm' hid
      have hnot := List.find?_eq_none.mp hm m hm'
      exact hnot (by simpa using hid)
    | some mapped =>
      have hid : mapped.id = p.id := by simpa using List.find?_some hm
      refine .stamped p mapped hp (mem_of_find?_eq_some hm) hid ?_
      dsimp only
      rw [hid]

omit [EventLoop L Token Timer] in
theorem mem_layoutWindows {m : Mapped Surface} (hm : m ∈ s.windows) : m ∈ s.layoutWindows :=
  mem_append_right _ hm

theorem Committed.inv (h : Inv w) (hs : Committed w.state s) : Inv ⟨s, w.since⟩ := by
  cases hs with
  | idle pending same =>
    subst same
    exact h
  | gone p pending absent same =>
    subst same
    exact h.stampNone 0 0 (.inl rfl) (zero_le _) rfl rfl rfl (h.no_timer pending)
  | stamped p mapped pending mem id same =>
    subst same
    obtain ⟨hstamp, -, -⟩ := h.pending p pending
    exact h.stampNone p.id p.stamp (.inr (layoutWindows_stamp ..)) hstamp rfl rfl rfl
      (h.no_timer pending)

/-- What a change of the keyboard focus does. -/
inductive Refocused (s : State Surface WlSurface Token L) (focus : KeyboardFocus Surface WlSurface)
    (s' : State Surface WlSurface Token L) : Prop
  | elsewhere (absent : ∀ m ∈ s.layoutWindows, focus ≠ .layout (some m.surface))
      (same : s' = { s with keyboardFocus := focus })
  | stamped (mapped : Mapped Surface) (mem : mapped ∈ s.layoutWindows)
      (on : focus = .layout (some mapped.surface))
      (now : mapped.focusTimestamp = none ∨ fromMillis s.debounceMs = 0)
      (same : s' = { s.stamp mapped.id s.now with keyboardFocus := focus })
  | pending (mapped : Mapped Surface) (mem : mapped ∈ s.layoutWindows)
      (on : focus = .layout (some mapped.surface)) (later : mapped.focusTimestamp ≠ none)
      (token : Token) (eventLoop : L)
      (timers : ∀ t c, EventLoop.registered eventLoop t = some c →
        (t = token ∧ c.start = s.now) ∨ (EventLoop.registered s.eventLoop t = some c ∧
          ∀ p, s.pendingMruCommit = some p → t ≠ p.token))
      (same : s' = { s with
        pendingMruCommit := some ⟨mapped.id, token, s.now⟩
        eventLoop := eventLoop
        keyboardFocus := focus })

theorem focusMapped_refocused (s : State Surface WlSurface Token L) {mapped : Mapped Surface}
    (hmem : mapped ∈ s.layoutWindows) : Refocused s (.layout (some mapped.surface))
      { s.focusMapped mapped with keyboardFocus := .layout (some mapped.surface) } := by
  unfold State.focusMapped
  dsimp only
  split_ifs with hnow
  · exact .stamped mapped hmem rfl hnow rfl
  · refine .pending mapped hmem rfl (fun hnone => hnow (.inl hnone)) _ _ ?_ rfl
    intro t c ht
    cases hp : s.pendingMruCommit with
    | none =>
      rw [hp] at ht
      rcases registered_insertSource_iff.mp ht with ⟨htoken, rfl⟩ | hold
      · exact .inl ⟨htoken, rfl⟩
      · refine .inr ⟨hold, ?_⟩
        intro p hp'
        cases hp'
    | some p =>
      rw [hp] at ht
      obtain ⟨hne, ht⟩ := registered_remove_iff.mp ht
      rcases registered_insertSource_iff.mp ht with ⟨htoken, rfl⟩ | hold
      · exact .inl ⟨htoken, rfl⟩
      · refine .inr ⟨hold, ?_⟩
        intro p' hp'
        rw [← some.inj hp']
        exact hne

theorem updateKeyboardFocus_refocused [DecidableEq Surface] [DecidableEq WlSurface]
    (s : State Surface WlSurface Token L) (hne : s.keyboardFocus ≠ focus) :
    Refocused s focus (s.updateKeyboardFocus focus) := by
  unfold State.updateKeyboardFocus
  rw [if_neg hne]
  split
  next surface =>
    split
    next mapped hm =>
      have hsurface : mapped.surface = surface := by simpa using List.find?_some hm
      subst hsurface
      exact focusMapped_refocused s (mem_of_find?_eq_some hm)
    next hnone =>
      refine .elsewhere ?_ rfl
      rintro m hm hfocus
      obtain rfl : surface = m.surface := by injection hfocus with hsome; exact some.inj hsome
      exact List.find?_eq_none.mp hnone m hm (by simp)
  next hno =>
    refine .elsewhere ?_ rfl
    rintro m - hfocus
    exact hno m.surface hfocus

theorem Refocused.keyboardFocus {s' : State Surface WlSurface Token L} (h : Refocused s focus s') :
    s'.keyboardFocus = focus ∧ s'.now = s.now := by
  cases h with
  | elsewhere absent same => exact same ▸ ⟨rfl, rfl⟩
  | stamped mapped mem on now same => exact same ▸ ⟨rfl, rfl⟩
  | pending mapped mem on later token eventLoop timers same => exact same ▸ ⟨rfl, rfl⟩

theorem Refocused.inv (h : Inv w) (hs : Refocused w.state focus s) : Inv ⟨s, w.state.now⟩ := by
  cases hs with
  | elsewhere absent same =>
    subst same
    refine ⟨h.ids, h.surfaces, h.fresh, h.stamped, le_refl _, h.timers, ?_⟩
    intro p hp
    obtain ⟨hstamp, hid, hmapped⟩ := h.pending p hp
    refine ⟨hstamp, hid, fun m hm hmid => ?_⟩
    obtain ⟨t, ht, -⟩ := hmapped m hm hmid
    exact ⟨t, ht, fun hfocus => absurd hfocus (absent m hm)⟩
  | stamped mapped mem on now same =>
    subst same
    have hwindows : State.layoutWindows { w.state.stamp mapped.id w.state.now with
        keyboardFocus := focus } =
        w.state.layoutWindows.map (Mapped.stampIf mapped.id w.state.now) :=
      layoutWindows_stamp ..
    refine ⟨?_, ?_, ?_, ?_, le_refl _, h.timers, ?_⟩
    · rw [hwindows, map_id_stampIf]
      exact h.ids
    · rw [hwindows, map_surface_stampIf]
      exact h.surfaces
    · intro m hm
      rw [hwindows] at hm
      obtain ⟨m₀, hm₀, rfl⟩ := mem_map.mp hm
      rw [stampIf_id]
      exact h.fresh m₀ hm₀
    · intro m hm t ht
      rw [hwindows] at hm
      obtain ⟨m₀, hm₀, rfl⟩ := mem_map.mp hm
      rw [stampIf_focusTimestamp] at ht
      split_ifs at ht
      · exact (some.inj ht).ge
      · exact h.stamped m₀ hm₀ t ht
    · intro p hp
      obtain ⟨hstamp, hid, hmapped⟩ := h.pending p hp
      refine ⟨hstamp, hid, fun m hm hmid => ?_⟩
      rw [hwindows] at hm
      obtain ⟨m₀, hm₀, rfl⟩ := mem_map.mp hm
      rw [stampIf_id] at hmid
      rw [stampIf_focusTimestamp, stampIf_surface]
      split_ifs with hsame
      · exact ⟨_, rfl, fun _ => .inr ⟨rfl, hstamp⟩⟩
      · obtain ⟨t, ht, -⟩ := hmapped m₀ hm₀ hmid
        refine ⟨t, ht, fun hfocus => absurd ?_ hsame⟩
        -- The focus is on another window.
        rw [on] at hfocus
        have hsurface : mapped.surface = m₀.surface := by
          injection hfocus with hsome
          exact some.inj hsome
        rw [eq_of_surface h.surfaces mem hm₀ hsurface]
  | pending mapped mem on later token eventLoop timers same =>
    subst same
    refine ⟨h.ids, h.surfaces, h.fresh, h.stamped, le_refl _, ?_, ?_⟩
    · intro t c ht
      rcases timers t c ht with ⟨htoken, hstart⟩ | ⟨hold, hne⟩
      · exact ⟨_, rfl, htoken.symm, hstart⟩
      · obtain ⟨p, hp, htoken, -⟩ := h.timers t c hold
        exact absurd htoken.symm (hne p hp)
    · intro p hp
      obtain rfl := some.inj hp
      refine ⟨le_refl _, h.fresh mapped mem, fun m hm hmid => ?_⟩
      obtain rfl := eq_of_id h.ids hm mem hmid
      obtain ⟨t, ht⟩ := ne_none_iff_exists'.mp later
      exact ⟨t, ht, fun _ => .inl ⟨rfl, h.stamped m hm t ht⟩⟩

end Steps

/-! ## What a step restamps -/

section Restamping

variable {w : Watched Surface WlSurface Token L}

omit [DecidableEq Surface] [DecidableEq WlSurface]

/-- A change of the focus restamps the window that gets it, without a debounce period. -/
theorem Refocused.keptFocus (h : Inv w) {focus : KeyboardFocus Surface WlSurface}
    {s : State Surface WlSurface Token L} (hs : Refocused w.state focus s)
    {mapped : Mapped Surface} {stamp : ℕ} (hre : Restamps w.state s mapped stamp) :
    KeptFocus w ⟨s, w.state.now⟩ (.updateKeyboardFocus focus) mapped stamp := by
  cases hs with
  | elsewhere absent same =>
    subst same
    exact absurd hre (not_restamps h.ids (fun m hm _ => hm) mapped stamp)
  | stamped mapped' mem on now same =>
    subst same
    have hwindows := layoutWindows_stamp w.state mapped'.id w.state.now
    obtain ⟨hm, hsome, hne, hid, rfl⟩ := (restamps_stamp h.ids hwindows).mp hre
    obtain rfl := eq_of_id h.ids hm mem hid
    exact ⟨on, le_refl _, now.resolve_left hsome⟩
  | pending mapped' mem on later token eventLoop timers same =>
    subst same
    exact absurd hre (not_restamps h.ids (fun m hm _ => hm) mapped stamp)

/-- A commit restamps a window that has kept the focus, exactly when it has the focus now and an
older timestamp. -/
theorem Committed.keptFocus_iff (h : Inv w) {s : State Surface WlSurface Token L}
    (hs : Committed w.state s) (e : Event Surface WlSurface Token)
    (helapsed : ∀ p, w.state.pendingMruCommit = some p → Elapsed w.state e p.stamp) :
    (∀ mapped stamp, Restamps w.state s mapped stamp → KeptFocus w ⟨s, w.since⟩ e mapped stamp) ↔
      ∀ p, w.state.pendingMruCommit = some p → ∀ mapped ∈ w.state.windows, mapped.id = p.id →
        mapped.focusTimestamp ≠ some p.stamp →
        w.state.keyboardFocus = .layout (some mapped.surface) ∧
          ∀ t, mapped.focusTimestamp = some t → t < p.stamp := by
  cases hs with
  | idle pending same =>
    subst same
    constructor
    · intro _ p hp
      rw [pending] at hp
      cases hp
    · intro _ mapped stamp hre
      exact absurd hre (not_restamps h.ids (fun m hm _ => hm) mapped stamp)
  | gone p pending absent same =>
    subst same
    constructor
    · intro _ p' hp' mapped hm hid
      obtain rfl := some.inj (pending.symm.trans hp')
      exact absurd hid (absent mapped hm)
    · intro _ mapped stamp hre
      exact absurd hre (not_restamps h.ids (fun m hm _ => hm) mapped stamp)
  | stamped p window pending mem id same =>
    subst same
    have hre : ∀ {mapped stamp}, Restamps w.state (State.stamp { w.state with
        pendingMruCommit := none
        eventLoop := EventLoop.remove w.state.eventLoop p.token } p.id p.stamp) mapped stamp ↔ _ :=
      fun {mapped stamp} => restamps_stamp h.ids (layoutWindows_stamp ..)
    obtain ⟨-, -, hpending⟩ := h.pending p pending
    constructor
    · intro hkept p' hp' mapped hm hid hne
      obtain rfl := some.inj (pending.symm.trans hp')
      have hmem := mem_layoutWindows hm
      obtain ⟨t, ht, hheld⟩ := hpending mapped hmem hid
      have hsome : mapped.focusTimestamp ≠ none := by
        rw [ht]
        exact some_ne_none t
      obtain ⟨hfocused, hsince, -⟩ := hkept mapped p.stamp (hre.mpr ⟨hmem, hsome, hne, hid, rfl⟩)
      refine ⟨hfocused, fun t' ht' => ?_⟩
      obtain rfl := some.inj (ht.symm.trans ht')
      have hne' : t ≠ p.stamp := fun heq => hne (ht.trans (congrArg some heq))
      have hsince' : w.since ≤ p.stamp := hsince
      rcases hheld hfocused with ⟨hstamp, hle⟩ | ⟨hstamp, hle⟩
      · omega
      · omega
    · intro hcareful mapped stamp hrestamps
      obtain ⟨hmem, hsome, hne, hid, rfl⟩ := hre.mp hrestamps
      obtain rfl := eq_of_id h.ids hmem (mem_layoutWindows mem) (hid.trans id.symm)
      obtain ⟨hfocused, holder⟩ := hcareful p pending mapped mem hid hne
      refine ⟨hfocused, ?_, helapsed p pending⟩
      obtain ⟨t, ht, hheld⟩ := hpending mapped hmem hid
      have hlt := holder t ht
      show w.since ≤ p.stamp
      rcases hheld hfocused with ⟨hstamp, -⟩ | ⟨hstamp, -⟩
      · omega
      · omega

end Restamping

/-! ## Every run -/

section

omit [DecidableEq Surface] [DecidableEq WlSurface]

theorem Committed.keyboardFocus {s s' : State Surface WlSurface Token L} (h : Committed s s') :
    s'.keyboardFocus = s.keyboardFocus := by
  cases h with
  | idle pending same => rw [same]
  | gone p pending absent same => rw [same]
  | stamped p mapped pending mem id same =>
    rw [same]
    rfl

/-- One source less. -/
theorem Inv.removeSource (h : Inv w) (token : Token) :
    Inv ⟨{ w.state with eventLoop := EventLoop.remove w.state.eventLoop token }, w.since⟩ := by
  refine ⟨h.ids, h.surfaces, h.fresh, h.stamped, h.since, ?_, h.pending⟩
  intro t c ht
  exact h.timers t c (registered_remove_iff.mp ht).2

end

/-- What one event does. -/
inductive Stepped (w : Watched Surface WlSurface Token L) (e : Event Surface WlSurface Token)
    (s : State Surface WlSurface Token L) : Prop
  /-- Nothing is stamped. -/
  | quiet (inv : Inv ⟨s, w.since⟩) (focus : s.keyboardFocus = w.state.keyboardFocus)
      (windows : ∀ m ∈ s.layoutWindows, m.focusTimestamp ≠ none → m ∈ w.state.layoutWindows)
      (idle : ¬Commits w.state e)
  | refocused (focus : KeyboardFocus Surface WlSurface) (event : e = .updateKeyboardFocus focus)
      (ne : w.state.keyboardFocus ≠ focus) (step : Refocused w.state focus s)
  | committed (commits : Commits w.state e)
      (elapsed : ∀ p, w.state.pendingMruCommit = some p → Elapsed w.state e p.stamp)
      (inv : Inv ⟨s, w.since⟩) (s₁ : State Surface WlSurface Token L)
      (step : Committed w.state s₁) (eventLoop : L) (same : s = { s₁ with eventLoop := eventLoop })

omit [DecidableEq Surface] in
theorem nodup_map_of_subperm {α : Type} {ms ms' : List (Mapped Surface)} (f : Mapped Surface → α)
    (hsub : ms'.Subperm ms) (h : (ms.map f).Nodup) : (ms'.map f).Nodup := by
  obtain ⟨l, hperm, hl⟩ := hsub
  exact (hperm.map f).nodup_iff.mp (h.sublist (hl.map f))

omit [DecidableEq Surface] [DecidableEq WlSurface] in
/-- Windows leave or change places. -/
theorem Stepped.rearrange (h : Inv w) (hidle : ¬Commits w.state e)
    {moving : Option (Mapped Surface)} {windows : List (Mapped Surface)}
    (hwindows : (moving.toList ++ windows).Subperm w.state.layoutWindows) :
    Stepped w e { w.state with moving := moving, windows := windows } := by
  have hsub : ∀ m ∈ moving.toList ++ windows, m ∈ w.state.layoutWindows :=
    fun m hm => hwindows.subset hm
  refine .quiet ?_ rfl (fun m hm _ => hsub m hm) hidle
  exact h.rearrange (nodup_map_of_subperm Mapped.id hwindows h.ids)
    (nodup_map_of_subperm Mapped.surface hwindows h.surfaces) hsub (le_refl _) rfl rfl rfl rfl

theorem step_stepped (h : Inv w) {s : State Surface WlSurface Token L}
    (hstep : step w.state e = some s) : Stepped w e s := by
  have commit : ∀ e : Event Surface WlSurface Token, Commits w.state e →
      (∀ stamp, Elapsed w.state e stamp) → Stepped w e w.state.mruApplyKeyboardCommit :=
    fun e hcommits helapsed =>
      have hs := mruApplyKeyboardCommit_committed w.state
      .committed hcommits (fun p _ => helapsed p.stamp) (hs.inv h) _ hs _ rfl
  have same : ∀ e : Event Surface WlSurface Token, ¬Commits w.state e → Stepped w e w.state :=
    fun e hidle => .quiet h rfl (fun m hm _ => hm) hidle
  unfold step at hstep
  cases e with
  | elapse duration =>
    obtain rfl := some.inj hstep
    exact .quiet (h.rearrange h.ids h.surfaces (fun _ hm => hm) (le_add_right _ _) rfl rfl rfl
      rfl) rfl (fun m hm _ => hm) id
  | reloadConfig debounceMs =>
    obtain rfl := some.inj hstep
    exact .quiet (h.rearrange h.ids h.surfaces (fun _ hm => hm) (le_refl _) rfl rfl rfl rfl) rfl
      (fun m hm _ => hm) id
  | map surface =>
    dsimp only at hstep
    split_ifs at hstep with hnew
    obtain rfl := some.inj hstep
    refine .quiet (h.mapped hnew) rfl (fun m hm hsome => ?_) id
    simp only [State.layoutWindows, mem_append, mem_singleton] at hm ⊢
    rcases hm with hm | hm | rfl
    · exact .inl hm
    · exact .inr hm
    · exact absurd rfl hsome
  | unmap surface =>
    obtain rfl := some.inj hstep
    refine .rearrange h id (List.Sublist.append ?_ filter_sublist).subperm
    cases w.state.moving with
    | none => exact List.Sublist.refl _
    | some m =>
      rw [filter_some]
      split_ifs
      · exact List.Sublist.refl _
      · exact nil_sublist _
  | interactiveMoveBegin surface =>
    dsimp only at hstep
    split at hstep
    next mapped hnone hfound =>
      obtain rfl := some.inj hstep
      have hsurface : mapped.surface = surface := by simpa using List.find?_some hfound
      have hnodup : w.state.windows.Nodup := by
        have hids := h.ids
        rw [State.layoutWindows, hnone] at hids
        exact hids.of_map
      refine .rearrange h id (List.Nodup.subperm ?_ ?_)
      · refine nodup_cons.mpr ⟨?_, hnodup.filter _⟩
        intro hmem
        exact absurd hsurface (by simpa using (mem_filter.mp hmem).2)
      · intro m hm
        refine mem_layoutWindows ?_
        rcases mem_cons.mp hm with rfl | hm
        · exact mem_of_find?_eq_some hfound
        · exact (mem_filter.mp hm).1
    next => cases hstep
  | interactiveMoveEnd =>
    obtain rfl := some.inj hstep
    refine .rearrange h id ?_
    exact (perm_append_comm : (w.state.windows ++ w.state.moving.toList).Perm _).subperm
  | updateKeyboardFocus focus =>
    obtain rfl := some.inj hstep
    by_cases hne : w.state.keyboardFocus = focus
    · have hkeep : w.state.updateKeyboardFocus focus = w.state := if_pos hne
      rw [hkeep]
      exact same _ id
    · exact .refocused focus rfl hne (updateKeyboardFocus_refocused w.state hne)
  | dispatch token =>
    dsimp only at hstep
    split_ifs at hstep with hdue
    obtain rfl := some.inj hstep
    have hs := mruApplyKeyboardCommit_committed w.state
    refine .committed hdue ?_ ((hs.inv h).removeSource token) _ hs _ rfl
    intro p hp
    unfold Due at hdue
    cases hc : (EventLoop.registered w.state.eventLoop token : Option Timer) with
    | none =>
      rw [hc] at hdue
      exact hdue.elim
    | some c =>
      rw [hc] at hdue
      obtain ⟨p', hp', -, hstart⟩ := h.timers token c hc
      obtain rfl := some.inj (hp'.symm.trans hp)
      refine ⟨c.duration, ?_, ?_⟩
      · rw [hc, ← hstart]
      · rw [← hstart]
        exact hdue
  | onKeyboard | focusWindowPrevious | mruAdvance =>
    dsimp only at hstep
    split_ifs at hstep with hcommits <;> obtain rfl := some.inj hstep
    · exact commit _ hcommits fun _ => trivial
    · exact same _ hcommits

/-- When the focus has last changed, after the step. -/
theorem watch_eq (h : Inv w) (hwatch : watch w e = some w') :
    Stepped w e w'.state ∧ w'.since =
      if w'.state.keyboardFocus = w.state.keyboardFocus then w.since else w'.state.now := by
  obtain ⟨s, hs, rfl⟩ := map_eq_some_iff.mp hwatch
  exact ⟨step_stepped h hs, rfl⟩

theorem watch_inv (h : Inv w) (hwatch : watch w e = some w') : Inv w' := by
  obtain ⟨hs, hsince⟩ := watch_eq h hwatch
  obtain ⟨s, since⟩ := w'
  cases hs with
  | quiet inv focus windows idle =>
    obtain rfl : since = w.since := hsince.trans (if_pos focus)
    exact inv
  | refocused focus event ne step =>
    obtain ⟨hfocus, hnow⟩ := step.keyboardFocus
    obtain rfl : since = w.state.now :=
      (hsince.trans (if_neg (hfocus.trans_ne (Ne.symm ne)))).trans hnow
    exact step.inv h
  | committed commits elapsed inv s₁ step eventLoop same =>
    subst same
    obtain rfl : since = w.since := hsince.trans (if_pos step.keyboardFocus)
    exact inv

/-- **One step** locks the timestamps in exactly when it is careful. -/
theorem lockedIn_step (h : Inv w) (hwatch : watch w e = some w') : LockedIn w e ↔ Careful w e := by
  have hlocked : LockedIn w e ↔ ∀ mapped stamp, Restamps w.state w'.state mapped stamp →
      KeptFocus w w' e mapped stamp := by
    constructor
    · intro hl
      exact (hl w' hwatch).2.2
    · intro hkept w'' hw''
      obtain rfl := some.inj (hwatch.symm.trans hw'')
      exact ⟨h.oneTimer, (watch_inv h hwatch).oneTimer, hkept⟩
  rw [hlocked]
  obtain ⟨hs, hsince⟩ := watch_eq h hwatch
  obtain ⟨s, since⟩ := w'
  cases hs with
  | quiet inv focus windows idle =>
    refine iff_of_true (fun mapped stamp hre => ?_) fun hcommits => absurd hcommits idle
    exact absurd hre (not_restamps h.ids windows mapped stamp)
  | refocused focus event ne step =>
    obtain ⟨hfocus, hnow⟩ := step.keyboardFocus
    obtain rfl : since = w.state.now :=
      (hsince.trans (if_neg (hfocus.trans_ne (Ne.symm ne)))).trans hnow
    subst event
    exact iff_of_true (fun mapped stamp hre => step.keptFocus h hre) fun hcommits => hcommits.elim
  | committed commits elapsed inv s₁ step eventLoop same =>
    subst same
    obtain rfl : since = w.since := hsince.trans (if_pos step.keyboardFocus)
    have hcareful : Careful w e ↔ _ := ⟨fun hc => hc commits, fun hc _ => hc⟩
    refine Iff.trans ?_ ((step.keptFocus_iff h e elapsed).trans hcareful.symm)
    refine forall_congr' fun mapped => forall_congr' fun stamp => imp_congr Iff.rfl ?_
    exact ⟨fun hk => ⟨hk.focused, hk.kept, hk.elapsed⟩, fun hk => ⟨hk.focused, hk.kept, hk.elapsed⟩⟩

/-- **The timestamps are locked in along a run** exactly when no commit in it gives another
timestamp to a window without the focus, or an older one: and there is at most one timer in any
run. -/
theorem lockedIn_iff_careful (now debounceMs : ℕ) {eventLoop : L}
    (hempty : ∀ (t : Token), EventLoop.registered eventLoop t = (none : Option Timer))
    (events : List (Event Surface WlSurface Token)) :
    Run.Along watch LockedIn (start now debounceMs eventLoop) events ↔
      Run.Along watch Careful (start now debounceMs eventLoop) events :=
  Run.along_congr (fun _ _ _ h hwatch => watch_inv h hwatch)
    (fun _ _ _ h hwatch => lockedIn_step h hwatch) (start_inv now debounceMs hempty)

/-- A window is left and focused again. -/
def refocus : List (Event ℕ ℕ ℕ) :=
  [.map 1, .updateKeyboardFocus (.layout (some 1)), .updateKeyboardFocus (.layout none),
    .elapse 1000, .updateKeyboardFocus (.layout (some 1))]

/-- It stays focused until the timer is due. -/
theorem refocus_lockedIn :
    Run.Along watch LockedIn (start 0 750 (Sources.empty : Sources Timer))
      (refocus ++ [.elapse (fromMillis 750), .dispatch 0]) :=
  (lockedIn_iff_careful 0 750 (fun _ => rfl) _).mpr (by decide +kernel)

/-- **The timestamp of a window that has lost the focus**: a new window opens over it, and a key
pressed there stamps the first one. -/
theorem newWindow_not_lockedIn :
    ¬Run.Along watch LockedIn (start 0 750 (Sources.empty : Sources Timer))
      (refocus ++ [.map 2, .updateKeyboardFocus (.layout (some 2)), .onKeyboard true true false]) := by
  intro h
  have hcareful := (Run.along_congr (fun _ _ _ h hwatch => watch_inv h hwatch)
    (fun _ _ _ h hwatch => lockedIn_step h hwatch) (start_inv 0 750 fun _ => rfl)).mp h
  revert hcareful
  decide +kernel

end Tiri.Ui.FocusTimestamps
