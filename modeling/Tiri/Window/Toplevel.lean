import Mathlib.Data.List.Nodup
import Mathlib.Data.List.TakeWhile
import Tiri.Layout.Basic

/-!
# Toplevel surfaces

What windows rely on when they configure their client: the compositor changes a pending state
and sends it as a configure with a new serial; the client acks configures in the order of their
serials, possibly skipping some, and commits to what it has acked.

Results:
* `live_ackConfigure`, `live_commit`: what the client does only takes configures away, and never
  the last one that was sent;
* `ToplevelData.Ok`: the serials of the configures grow, kept by everything.
-/

namespace Tiri.Window

open List Nat

/-- `ToplevelState`; its `states` are the flags. -/
structure ToplevelState where
  size : Option Layout.ISize
  bounds : Option Layout.ISize
  fullscreen : Bool
  maximized : Bool
  resizing : Bool
  activated : Bool
  deriving DecidableEq

/-- The state before any configure. -/
instance : Inhabited ToplevelState where
  default :=
    { size := none
      bounds := none
      fullscreen := false
      maximized := false
      resizing := false
      activated := false }

structure ToplevelConfigure where
  serial : ℕ
  state : ToplevelState

/-- What there is to know of a toplevel surface. -/
structure ToplevelData where
  serverPending : Option ToplevelState
  /-- The configures that the client has not acked. -/
  pendingConfigures : List ToplevelConfigure
  /-- The configures that the client has acked and not committed to yet. -/
  acked : List ToplevelConfigure
  /-- The configure that the client has committed to: `last_acked` of the current state. -/
  committed : Option ToplevelConfigure
  /-- The serial of the last configure. -/
  lastSerial : ℕ

namespace ToplevelData

variable (d : ToplevelData)

def lastAcked : Option ToplevelConfigure :=
  d.acked.getLast?.or d.committed

/-- The configures that the client can still answer to, or has answered to last. -/
def live : List ToplevelConfigure :=
  d.committed.toList ++ d.acked ++ d.pendingConfigures

/-- `current_server_state`: the state that was sent last. -/
def currentServerState : ToplevelState :=
  (d.pendingConfigures.getLast?.or d.lastAcked).elim default ToplevelConfigure.state

/-- The state that the next configure would carry. -/
def pendingState : ToplevelState :=
  d.serverPending.getD d.currentServerState

/-- The pending state is changed. -/
def withPendingState (f : ToplevelState → ToplevelState) : ToplevelData :=
  { d with serverPending := some (f d.pendingState) }

/-- The pending state is sent under a serial. -/
def sendConfigure (serial : ℕ) : ToplevelData :=
  { d with
    serverPending := none
    pendingConfigures := d.pendingConfigures ++ [{ serial, state := d.pendingState }]
    lastSerial := serial }

/-- The client acks a configure, and those that were sent before it are gone. -/
def ackConfigure (serial : ℕ) : ToplevelData :=
  match d.pendingConfigures.dropWhile fun c => c.serial ≠ serial with
  | [] => d
  | c :: newer => { d with pendingConfigures := newer, acked := d.acked ++ [c] }

/-- A commit of the client, made when the configure was the last that it had acked, takes
effect. -/
def commit (serial : ℕ) : ToplevelData :=
  match d.acked.dropWhile fun c => c.serial ≠ serial with
  | [] => d
  | c :: newer => { d with acked := newer, committed := some c }

/-- The client has committed to the last configure that was sent. -/
def caughtUp : Bool :=
  d.committed.isSome && d.acked.isEmpty && d.pendingConfigures.isEmpty

/-- The serials of the configures grow. -/
structure Ok (d : ToplevelData) : Prop where
  sorted : d.live.Pairwise fun c c' => c.serial < c'.serial
  le_lastSerial : ∀ c ∈ d.live, c.serial ≤ d.lastSerial

variable {d : ToplevelData}

theorem currentServerState_eq (d : ToplevelData) :
    d.currentServerState = d.live.getLast?.elim default ToplevelConfigure.state := by
  unfold currentServerState lastAcked live
  rw [List.getLast?_append, List.getLast?_append]
  congr 2
  cases d.committed with
  | none => rfl
  | some c => rfl

variable (f : ToplevelState → ToplevelState)

@[simp] theorem currentServerState_withPendingState :
    (d.withPendingState f).currentServerState = d.currentServerState := rfl

@[simp] theorem pendingState_withPendingState :
    (d.withPendingState f).pendingState = f d.pendingState := rfl

variable (serial : ℕ)

theorem live_sendConfigure :
    (d.sendConfigure serial).live = d.live ++ [{ serial, state := d.pendingState }] := by
  unfold live sendConfigure
  simp only [append_assoc]

@[simp] theorem currentServerState_sendConfigure :
    (d.sendConfigure serial).currentServerState = d.pendingState := by
  rw [currentServerState_eq, live_sendConfigure, List.getLast?_append]
  rfl

@[simp] theorem pendingState_sendConfigure :
    (d.sendConfigure serial).pendingState = d.pendingState :=
  currentServerState_sendConfigure serial

/-- An ack finds its configure, or does nothing. -/
theorem ackConfigure_cases (d : ToplevelData) (serial : ℕ) :
    d.ackConfigure serial = d ∨ ∃ older c newer,
      d.pendingConfigures = older ++ c :: newer ∧ c.serial = serial ∧
      d.ackConfigure serial = { d with pendingConfigures := newer, acked := d.acked ++ [c] } := by
  unfold ackConfigure
  have hsplit := takeWhile_append_dropWhile (p := fun c => decide (c.serial ≠ serial))
    (l := d.pendingConfigures)
  cases hdrop : d.pendingConfigures.dropWhile fun c => decide (c.serial ≠ serial) with
  | nil => exact Or.inl rfl
  | cons c newer =>
    rw [hdrop] at hsplit
    have hserial := head_dropWhile_not (fun c => decide (c.serial ≠ serial))
      (l := d.pendingConfigures) (by rw [hdrop]; exact cons_ne_nil _ _)
    simp only [hdrop, head_cons, decide_eq_false_iff_not, not_not] at hserial
    exact Or.inr ⟨_, c, newer, hsplit.symm, hserial, rfl⟩

/-- A commit finds its configure, or changes nothing. -/
theorem commit_cases (d : ToplevelData) (serial : ℕ) :
    d.commit serial = d ∨ ∃ older c newer, d.acked = older ++ c :: newer ∧ c.serial = serial ∧
      d.commit serial = { d with acked := newer, committed := some c } := by
  unfold commit
  have hsplit := takeWhile_append_dropWhile (p := fun c => decide (c.serial ≠ serial))
    (l := d.acked)
  cases hdrop : d.acked.dropWhile fun c => decide (c.serial ≠ serial) with
  | nil => exact Or.inl rfl
  | cons c newer =>
    rw [hdrop] at hsplit
    have hserial := head_dropWhile_not (fun c => decide (c.serial ≠ serial))
      (l := d.acked) (by rw [hdrop]; exact cons_ne_nil _ _)
    simp only [hdrop, head_cons, decide_eq_false_iff_not, not_not] at hserial
    exact Or.inr ⟨_, c, newer, hsplit.symm, hserial, rfl⟩

/-- A commit to a configure that the client has acked, or committed to before. -/
theorem committed_commit {serial : ℕ}
    (hserial : ((d.committed.toList ++ d.acked).any fun c => c.serial = serial) = true) :
    ∃ c, (d.commit serial).committed = some c ∧ c.serial = serial := by
  obtain ⟨c, hc, heq⟩ := any_eq_true.mp hserial
  have heq : c.serial = serial := of_decide_eq_true heq
  unfold commit
  cases hdrop : d.acked.dropWhile fun c => decide (c.serial ≠ serial) with
  | nil =>
    have hnot := dropWhile_eq_nil_iff.mp hdrop
    rcases mem_append.mp hc with hc | hc
    · exact ⟨c, Option.mem_toList.mp hc, heq⟩
    · exact absurd heq (of_decide_eq_true (hnot c hc))
  | cons c' newer =>
    have hserial' := head_dropWhile_not (fun c => decide (c.serial ≠ serial))
      (l := d.acked) (by rw [hdrop]; exact cons_ne_nil _ _)
    simp only [hdrop, head_cons, decide_eq_false_iff_not, not_not] at hserial'
    exact ⟨c', rfl, hserial'⟩

/-- **An ack** only takes configures away, and not the last one. -/
theorem live_ackConfigure (d : ToplevelData) (serial : ℕ) :
    (d.ackConfigure serial).live.Sublist d.live ∧
      (d.ackConfigure serial).live.getLast? = d.live.getLast? := by
  rcases ackConfigure_cases d serial with heq | ⟨older, c, newer, hpending, -, heq⟩
  · rw [heq]
    exact ⟨List.Sublist.refl _, rfl⟩
  · rw [heq]
    unfold live
    rw [hpending]
    constructor
    · simp only [append_assoc]
      refine (List.Sublist.refl _).append ((List.Sublist.refl _).append ?_)
      exact sublist_append_right older (c :: newer)
    · simp [List.getLast?_append, List.getLast?_cons]

/-- **A commit** only takes configures away, and not the last one. -/
theorem live_commit (d : ToplevelData) (serial : ℕ) :
    (d.commit serial).live.Sublist d.live ∧
      (d.commit serial).live.getLast? = d.live.getLast? := by
  rcases commit_cases d serial with heq | ⟨older, c, newer, hacked, -, heq⟩
  · rw [heq]
    exact ⟨List.Sublist.refl _, rfl⟩
  · rw [heq]
    unfold live
    rw [hacked]
    constructor
    · refine List.Sublist.append ?_ (List.Sublist.refl _)
      exact (sublist_append_right older (c :: newer)).trans
        (sublist_append_right d.committed.toList _)
    · simp [List.getLast?_append, List.getLast?_cons]

@[simp] theorem currentServerState_ackConfigure :
    (d.ackConfigure serial).currentServerState = d.currentServerState := by
  rw [currentServerState_eq, (live_ackConfigure d serial).2, ← currentServerState_eq]

@[simp] theorem currentServerState_commit :
    (d.commit serial).currentServerState = d.currentServerState := by
  rw [currentServerState_eq, (live_commit d serial).2, ← currentServerState_eq]

theorem serverPending_ackConfigure (d : ToplevelData) (serial : ℕ) :
    (d.ackConfigure serial).serverPending = d.serverPending := by
  rcases ackConfigure_cases d serial with heq | ⟨_, _, _, _, _, heq⟩
  · rw [heq]
  · rw [heq]

theorem serverPending_commit (d : ToplevelData) (serial : ℕ) :
    (d.commit serial).serverPending = d.serverPending := by
  rcases commit_cases d serial with heq | ⟨_, _, _, _, _, heq⟩
  · rw [heq]
  · rw [heq]

@[simp] theorem pendingState_ackConfigure :
    (d.ackConfigure serial).pendingState = d.pendingState := by
  unfold pendingState
  rw [serverPending_ackConfigure, currentServerState_ackConfigure]

@[simp] theorem pendingState_commit : (d.commit serial).pendingState = d.pendingState := by
  unfold pendingState
  rw [serverPending_commit, currentServerState_commit]

theorem Ok.withPendingState (h : d.Ok) (f : ToplevelState → ToplevelState) :
    (d.withPendingState f).Ok :=
  ⟨h.sorted, h.le_lastSerial⟩

theorem Ok.sendConfigure (h : d.Ok) {serial : ℕ} (hserial : d.lastSerial < serial) :
    (d.sendConfigure serial).Ok := by
  constructor
  · rw [live_sendConfigure, pairwise_append]
    refine ⟨h.sorted, pairwise_singleton _ _, ?_⟩
    intro c hc c' hc'
    rw [mem_singleton.mp hc']
    exact lt_of_le_of_lt (h.le_lastSerial c hc) hserial
  · intro c hc
    rw [live_sendConfigure, mem_append] at hc
    rcases hc with hc | hc
    · exact le_of_lt (lt_of_le_of_lt (h.le_lastSerial c hc) hserial)
    · rw [mem_singleton.mp hc]
      exact le_refl serial

/-- A configure is known by its serial. -/
theorem Ok.eq_of_serial (h : d.Ok) {c c' : ToplevelConfigure} (hc : c ∈ d.live) (hc' : c' ∈ d.live)
    (heq : c.serial = c'.serial) : c = c' := by
  have hnodup : (d.live.map ToplevelConfigure.serial).Nodup :=
    pairwise_map.mpr (h.sorted.imp fun hlt => ne_of_lt hlt)
  exact inj_on_of_nodup_map hnodup hc hc' heq

/-- The last configure has the last serial. -/
theorem Ok.lt_last (h : d.Ok) {c last : ToplevelConfigure} (hc : c ∈ d.live)
    (hlast : d.live.getLast? = some last) (hne : c ≠ last) : c.serial < last.serial := by
  obtain ⟨older, hlive⟩ := List.getLast?_eq_some_iff.mp hlast
  have hsorted := h.sorted
  rw [hlive] at hsorted hc
  obtain ⟨-, -, hlt⟩ := pairwise_append.mp hsorted
  rcases mem_append.mp hc with hc | hc
  · exact hlt c hc last (mem_singleton_self last)
  · exact absurd (mem_singleton.mp hc) hne

/-- A configure that is acked is found. -/
theorem Ok.mem_acked_ackConfigure (h : d.Ok) {c : ToplevelConfigure}
    (hc : c ∈ d.pendingConfigures) : c ∈ (d.ackConfigure c.serial).acked := by
  have hlive : ∀ c' ∈ d.pendingConfigures, c' ∈ d.live :=
    fun c' hc' => mem_append_right _ hc'
  rcases d.ackConfigure_cases c.serial with hsame | ⟨older, c', newer, hpending, hserial, heq⟩
  · exfalso
    unfold ackConfigure at hsame
    cases hdrop : d.pendingConfigures.dropWhile fun c' => decide (c'.serial ≠ c.serial) with
    | nil => exact of_decide_eq_true (dropWhile_eq_nil_iff.mp hdrop c hc) rfl
    | cons c' newer =>
      rw [hdrop] at hsame
      have hlength := congrArg (fun d : ToplevelData => d.acked.length) hsame
      simp at hlength
  · rw [heq]
    have hc' : c' ∈ d.pendingConfigures := by
      rw [hpending]
      simp
    rw [h.eq_of_serial (hlive c hc) (hlive c' hc') hserial.symm]
    simp

theorem lastSerial_ackConfigure (d : ToplevelData) (serial : ℕ) :
    (d.ackConfigure serial).lastSerial = d.lastSerial := by
  rcases ackConfigure_cases d serial with heq | ⟨_, _, _, _, _, heq⟩
  · rw [heq]
  · rw [heq]

theorem lastSerial_commit (d : ToplevelData) (serial : ℕ) :
    (d.commit serial).lastSerial = d.lastSerial := by
  rcases commit_cases d serial with heq | ⟨_, _, _, _, _, heq⟩
  · rw [heq]
  · rw [heq]

theorem Ok.ackConfigure (h : d.Ok) (serial : ℕ) : (d.ackConfigure serial).Ok := by
  obtain ⟨hsub, -⟩ := live_ackConfigure d serial
  refine ⟨h.sorted.sublist hsub, fun c hc => ?_⟩
  rw [lastSerial_ackConfigure]
  exact h.le_lastSerial c (hsub.subset hc)

theorem Ok.commit (h : d.Ok) (serial : ℕ) : (d.commit serial).Ok := by
  obtain ⟨hsub, -⟩ := live_commit d serial
  refine ⟨h.sorted.sublist hsub, fun c hc => ?_⟩
  rw [lastSerial_commit]
  exact h.le_lastSerial c (hsub.subset hc)

/-- When the client has caught up, what it has committed to was sent last. -/
theorem caughtUp_live (h : d.caughtUp = true) :
    ∃ c, d.committed = some c ∧ d.live = [c] := by
  unfold caughtUp at h
  simp only [Bool.and_eq_true, Option.isSome_iff_exists, List.isEmpty_iff] at h
  obtain ⟨⟨⟨c, hc⟩, hacked⟩, hpending⟩ := h
  refine ⟨c, hc, ?_⟩
  unfold live
  rw [hc, hacked, hpending]
  rfl

end ToplevelData

/-- A toplevel surface: its operations do to what is known of it what they are documented to
do, and every configure gets a new serial. -/
class ToplevelSurface (T : Type) where
  data : T → ToplevelData
  withPendingState : T → (ToplevelState → ToplevelState) → T
  sendConfigure : T → ℕ × T
  ackConfigure : T → ℕ → T
  commit : T → ℕ → T
  data_withPendingState (t : T) (f : ToplevelState → ToplevelState) :
    data (withPendingState t f) = (data t).withPendingState f
  lastSerial_lt (t : T) : (data t).lastSerial < (sendConfigure t).1
  data_sendConfigure (t : T) :
    data (sendConfigure t).2 = (data t).sendConfigure (sendConfigure t).1
  data_ackConfigure (t : T) (serial : ℕ) :
    data (ackConfigure t serial) = (data t).ackConfigure serial
  data_commit (t : T) (serial : ℕ) : data (commit t serial) = (data t).commit serial

/-- A surface that counts its serials. -/
instance : ToplevelSurface ToplevelData where
  data := id
  withPendingState := ToplevelData.withPendingState
  sendConfigure t := (t.lastSerial + 1, t.sendConfigure (t.lastSerial + 1))
  ackConfigure := ToplevelData.ackConfigure
  commit := ToplevelData.commit
  data_withPendingState _ _ := rfl
  lastSerial_lt t := lt_succ_self t.lastSerial
  data_sendConfigure _ := rfl
  data_ackConfigure _ _ := rfl
  data_commit _ _ := rfl

end Tiri.Window
