import Tiri.Lib.Run

/-!
# Transactions between Wayland clients

`src/utils/transaction.rs`.  The clones of a `Transaction` share one `Inner` through an `Arc`;
blockers hold it through a `Weak`.  The transaction completes when its last clone is dropped or
when its deadline timer fires, whichever comes first, and then tells the clients that registered.

Results:
* `run_protocol`: in every interleaving, when the transaction is completed, what its blockers
  report, and who is notified, when and how often.
-/

namespace Tiri.Utils

open Tiri.Run List

/-- `TIME_LIMIT`, in milliseconds. -/
def timeLimit : ℕ := 300

structure Inner (Sender Client : Type) where
  completed : Bool
  notifications : Option (Sender × List Client)

/-- `Deadline`; the ping of a registered one is kept with the event loop's sources. -/
inductive Deadline
  | notRegistered (instant : ℕ)
  | registered
  deriving DecidableEq

/-- `TransactionBlocker(Weak<Inner>)`: made from a transaction, or from `Weak::new()`. -/
inductive TransactionBlocker
  | ofTransaction
  | completed

inductive BlockerState
  | released
  | pending

/-- A transaction, what its clones share, and what surrounds it. -/
structure Transaction (Sender Client : Type) where
  /-- `Arc::strong_count(&self.inner)`: the clones that are alive. -/
  strongCount : ℕ
  inner : Inner Sender Client
  deadline : Deadline
  /-- The blockers handed out so far. -/
  blockers : List TransactionBlocker
  /-- The time of the event loop. -/
  now : ℕ
  /-- The deadline timer among the sources of the event loop, with its deadline. -/
  timer : Option ℕ
  /-- The ping that removes the timer has been sent. -/
  pinged : Bool
  /-- What went through the channels of the senders, whose receiving end lives as long as the
  compositor. -/
  sent : List (Sender × Client)

section Functions

variable {Sender Client : Type}

/-! ## `Inner` -/

/-- `Inner::new`. -/
def Inner.new : Inner Sender Client := { completed := false, notifications := none }

/-- `Inner::complete`: the inner value left behind and what is sent. -/
def Inner.complete (inner : Inner Sender Client) :
    Inner Sender Client × List (Sender × Client) :=
  match inner.notifications with
  | some (sender, clients) =>
    ({ completed := true, notifications := none }, clients.map fun client => (sender, client))
  | none => ({ completed := true, notifications := none }, [])

/-! ## `Transaction` -/

namespace Transaction

/-- `Transaction::new`, at the time `now`. -/
def new (now : ℕ) : Transaction Sender Client where
  strongCount := 1
  inner := .new
  deadline := .notRegistered (now + timeLimit)
  blockers := []
  now
  timer := none
  pinged := false
  sent := []

variable (self : Transaction Sender Client)

/-- `Weak::upgrade`. -/
def upgrade : Option (Inner Sender Client) :=
  if self.strongCount = 0 then none else some self.inner

def isCompleted : Bool := self.inner.completed

def isLast : Bool := self.strongCount == 1

/-- `self.inner.complete()`. -/
def complete : Transaction Sender Client :=
  let (inner, sent) := self.inner.complete
  { self with inner, sent := self.sent ++ sent }

/-- `Clone::clone`. -/
def clone : Transaction Sender Client :=
  { self with strongCount := self.strongCount + 1 }

def blocker : Transaction Sender Client :=
  { self with blockers := self.blockers ++ [.ofTransaction] }

def addNotification (sender : Sender) (client : Client) : Transaction Sender Client :=
  if self.isCompleted then self
  else
    let (sender, clients) := self.inner.notifications.getD (sender, [])
    { self with inner := { self.inner with notifications := some (sender, clients ++ [client]) } }

def registerDeadlineTimer : Transaction Sender Client :=
  match self.deadline with
  | .notRegistered deadline => { self with timer := some deadline, deadline := .registered }
  | .registered => self

/-- `Drop::drop`, followed by the drop of the `Arc`. -/
def drop : Transaction Sender Client :=
  let self :=
    if self.isLast then
      let self := self.complete
      if self.deadline = .registered then { self with pinged := true } else self
    else self
  { self with strongCount := self.strongCount - 1 }

/-- The callback of the deadline timer, which then drops it. -/
def deadlineReached : Transaction Sender Client :=
  let self := if self.upgrade.isSome then self.complete else self
  { self with timer := none }

/-- The callback of the ping source. -/
def removeTimer : Transaction Sender Client :=
  { self with timer := none, pinged := false }

/-- `<TransactionBlocker as Blocker>::state`. -/
def blockerState : TransactionBlocker → BlockerState
  | .ofTransaction =>
    if self.upgrade.all Inner.completed then .released else .pending
  | .completed => .released

/-! ## Interleavings -/

/-- What the owners of clones and the event loop can do. -/
inductive Event (Sender Client : Type)
  | clone
  | drop
  | addNotification (sender : Sender) (client : Client)
  | registerDeadlineTimer
  | blocker
  /-- `TransactionBlocker::completed`, which needs no transaction. -/
  | completedBlocker
  /-- Time passes. -/
  | advance (duration : ℕ)
  /-- The deadline timer fires. -/
  | deadlineReached
  /-- The ping source fires. -/
  | removeTimer

/-- One event; a clone must be alive to be used, a source ready to fire. -/
def step : Event Sender Client → Option (Transaction Sender Client)
  | .clone => if 0 < self.strongCount then some self.clone else none
  | .drop => if 0 < self.strongCount then some self.drop else none
  | .addNotification sender client =>
    if 0 < self.strongCount then some (self.addNotification sender client) else none
  | .registerDeadlineTimer =>
    if 0 < self.strongCount then some self.registerDeadlineTimer else none
  | .blocker => if 0 < self.strongCount then some self.blocker else none
  | .completedBlocker => some { self with blockers := self.blockers ++ [.completed] }
  | .advance duration => some { self with now := self.now + duration }
  | .deadlineReached =>
    if self.timer.any (· ≤ self.now) then some self.deadlineReached else none
  | .removeTimer => if self.pinged then some self.removeTimer else none

/-- The clients registered by the events, in order. -/
def registered (events : List (Event Sender Client)) : List Client :=
  events.filterMap fun
    | .addNotification _ client => some client
    | _ => none

/-- The event drops the last clone. -/
def DropsLast (event : Event Sender Client) : Prop :=
  event = .drop ∧ self.strongCount = 1

/-! ## What a step does -/

/-- The clients waiting for the transaction. -/
def pendingClients : List Client :=
  (self.inner.notifications.map Prod.snd).getD []

/-- What holds at all times. -/
structure Inv (s : Transaction Sender Client) : Prop where
  /-- A transaction without clones is completed. -/
  gone : s.strongCount = 0 → s.isCompleted = true
  /-- A completed transaction has nobody left to tell. -/
  told : s.isCompleted = true → s.inner.notifications = none

theorem new_inv (now : ℕ) : (new now : Transaction Sender Client).Inv where
  gone h := by cases h
  told h := by cases h

@[simp] theorem complete_isCompleted : self.complete.isCompleted = true := by
  unfold complete Inner.complete isCompleted
  cases self.inner.notifications <;> rfl

@[simp] theorem complete_notifications : self.complete.inner.notifications = none := by
  unfold complete Inner.complete
  cases self.inner.notifications <;> rfl

theorem complete_sent :
    (self.complete.sent).map Prod.snd = self.sent.map Prod.snd ++ self.pendingClients := by
  unfold complete Inner.complete pendingClients
  cases h : self.inner.notifications with
  | none => simp
  | some notifications => simp [map_map, Function.comp_def]

theorem complete_sent_of_told {self : Transaction Sender Client}
    (h : self.inner.notifications = none) : self.complete.sent = self.sent := by
  unfold complete Inner.complete
  rw [h]
  exact append_nil _

/-- What one step does to the completion and to the clients. -/
structure Advances (s : Transaction Sender Client) (e : Event Sender Client)
    (s' : Transaction Sender Client) : Prop where
  inv : s'.Inv
  completed_iff : s'.isCompleted = true ↔
    s.isCompleted = true ∨ s.DropsLast e ∨ e = .deadlineReached
  /-- As long as the transaction is not completed, nothing is sent. -/
  waiting : s'.isCompleted = false →
    s'.sent = s.sent ∧ s'.pendingClients = s.pendingClients ++ registered [e]
  /-- The step that completes the transaction tells the clients that wait for it. -/
  completing : s.isCompleted = false → s'.isCompleted = true →
    s'.sent.map Prod.snd = s.sent.map Prod.snd ++ s.pendingClients
  /-- Afterwards nothing is sent. -/
  silent : s.isCompleted = true → s'.sent = s.sent

variable {s s' : Transaction Sender Client} {e : Event Sender Client} {now : ℕ}
variable {es : List (Event Sender Client)} {t : Transaction Sender Client}

section

variable (h : s.Inv)
include h

/-- A step that touches neither the inner value nor the channels. -/
theorem Advances.of_quiet (hinner : s'.inner = s.inner) (hsent : s'.sent = s.sent)
    (hgone : s'.strongCount = 0 → s.strongCount = 0) (hregistered : registered [e] = [])
    (hcause : s.DropsLast e ∨ e = .deadlineReached → s.isCompleted = true) : s.Advances e s' := by
  have hcompleted : s'.isCompleted = s.isCompleted := by unfold isCompleted; rw [hinner]
  have hpending : s'.pendingClients = s.pendingClients := by unfold pendingClients; rw [hinner]
  constructor
  · constructor
    · intro hzero
      rw [hcompleted]
      exact h.gone (hgone hzero)
    · intro hc
      rw [hinner]
      exact h.told (hcompleted ▸ hc)
  · rw [hcompleted]
    constructor
    · exact Or.inl
    · rintro (hc | hc)
      · exact hc
      · exact hcause hc
  · intro _
    rw [hregistered, append_nil]
    exact ⟨hsent, hpending⟩
  · intro hc hc'
    rw [hcompleted, hc] at hc'
    cases hc'
  · intro _
    exact hsent

/-- A step that completes the transaction. -/
theorem Advances.of_complete (hinner : s'.inner = s.complete.inner)
    (hsent : s'.sent = s.complete.sent) (hcause : s.DropsLast e ∨ e = .deadlineReached) :
    s.Advances e s' := by
  have hcompleted : s'.isCompleted = true := by
    unfold isCompleted
    rw [hinner]
    exact complete_isCompleted s
  constructor
  · exact ⟨fun _ => hcompleted, fun _ => by rw [hinner, complete_notifications]⟩
  · exact ⟨fun _ => Or.inr hcause, fun _ => hcompleted⟩
  · intro hc
    rw [hcompleted] at hc
    cases hc
  · intro _ _
    rw [hsent, complete_sent]
  · intro hc
    rw [hsent, complete_sent_of_told (h.told hc)]

theorem addNotification_advances (sender : Sender) (client : Client) :
    s.Advances (.addNotification sender client) (s.addNotification sender client) := by
  unfold addNotification
  split_ifs with hc
  · -- A completed transaction turns the client away.
    refine ⟨h, ?_, ?_, ?_, fun _ => rfl⟩
    · exact ⟨Or.inl, fun _ => hc⟩
    · intro hn
      rw [hc] at hn
      cases hn
    · intro hn
      rw [hc] at hn
      cases hn
  · rw [Bool.not_eq_true] at hc
    have hstill : ∀ notifications, isCompleted
        { s with inner := { s.inner with notifications := notifications } } = false :=
      fun _ => hc
    refine ⟨⟨?_, ?_⟩, ?_, ?_, ?_, ?_⟩
    · intro hzero
      rw [h.gone hzero] at hc
      cases hc
    · intro hc'
      rw [hstill] at hc'
      cases hc'
    · rw [hstill, hc]
      constructor
      · intro hn
        cases hn
      · rintro (hn | ⟨hn, -⟩ | hn) <;> cases hn
    · intro _
      refine ⟨rfl, ?_⟩
      unfold pendingClients registered
      cases s.inner.notifications <;> rfl
    · intro _ hc'
      rw [hstill] at hc'
      cases hc'
    · intro _
      rfl

theorem drop_advances (hpos : 0 < s.strongCount) : s.Advances .drop s.drop := by
  by_cases hlast : s.strongCount = 1
  · have hcause : s.DropsLast .drop ∨ (.drop : Event Sender Client) = .deadlineReached :=
      Or.inl ⟨rfl, hlast⟩
    refine .of_complete h ?_ ?_ hcause <;>
    · simp only [drop, isLast, hlast, beq_self_eq_true, if_true]
      split_ifs <;> rfl
  · have hdrop : s.drop = { s with strongCount := s.strongCount - 1 } := by
      simp [drop, isLast, hlast]
    rw [hdrop]
    refine .of_quiet h rfl rfl ?_ rfl ?_
    · show s.strongCount - 1 = 0 → s.strongCount = 0
      omega
    · rintro (⟨-, hn⟩ | hn)
      · exact absurd hn hlast
      · cases hn

theorem deadlineReached_advances : s.Advances .deadlineReached s.deadlineReached := by
  by_cases hgone : s.strongCount = 0
  · have hreached : s.deadlineReached = { s with timer := none } := by
      simp [deadlineReached, upgrade, hgone]
    rw [hreached]
    exact .of_quiet h rfl rfl id rfl fun _ => h.gone hgone
  · have hreached : s.deadlineReached = { s.complete with timer := none } := by
      simp [deadlineReached, upgrade, hgone]
    rw [hreached]
    exact .of_complete h rfl rfl (Or.inr rfl)

/-- **One step.** -/
theorem step_advances (hstep : s.step e = some s') : s.Advances e s' := by
  have hnone : ∀ {f : Event Sender Client}, f ≠ .drop → f ≠ .deadlineReached →
      s.DropsLast f ∨ f = .deadlineReached → s.isCompleted = true := by
    rintro f hdrop hdeadline (⟨hn, -⟩ | hn)
    · exact absurd hn hdrop
    · exact absurd hn hdeadline
  cases e with
  | clone =>
    obtain ⟨hpos, rfl⟩ : 0 < s.strongCount ∧ s.clone = s' := by simpa [step] using hstep
    exact .of_quiet h rfl rfl (fun hn => by cases hn) rfl (hnone (by simp) (by simp))
  | drop =>
    obtain ⟨hpos, rfl⟩ : 0 < s.strongCount ∧ s.drop = s' := by simpa [step] using hstep
    exact drop_advances h hpos
  | addNotification sender client =>
    obtain ⟨-, rfl⟩ : 0 < s.strongCount ∧ s.addNotification sender client = s' := by
      simpa [step] using hstep
    exact addNotification_advances h sender client
  | registerDeadlineTimer =>
    obtain ⟨-, rfl⟩ : 0 < s.strongCount ∧ s.registerDeadlineTimer = s' := by
      simpa [step] using hstep
    have hcause := hnone (f := .registerDeadlineTimer) (by simp) (by simp)
    unfold registerDeadlineTimer
    split
    · exact .of_quiet h rfl rfl id rfl hcause
    · exact .of_quiet h rfl rfl id rfl hcause
  | blocker =>
    obtain ⟨-, rfl⟩ : 0 < s.strongCount ∧ s.blocker = s' := by simpa [step] using hstep
    exact .of_quiet h rfl rfl id rfl (hnone (by simp) (by simp))
  | completedBlocker | advance =>
    obtain rfl := Option.some.inj hstep
    exact .of_quiet h rfl rfl id rfl (hnone (by simp) (by simp))
  | deadlineReached =>
    obtain ⟨-, rfl⟩ : s.timer.any (· ≤ s.now) ∧ s.deadlineReached = s' := by
      simpa [step] using hstep
    exact deadlineReached_advances h
  | removeTimer =>
    obtain ⟨-, rfl⟩ : s.pinged = true ∧ s.removeTimer = s' := by simpa [step] using hstep
    exact .of_quiet h rfl rfl id rfl (hnone (by simp) (by simp))

end

/-! ## Whole runs -/

theorem run_inv (h : exec step (new now) es = some s) : s.Inv :=
  exec_invariant (fun _ _ _ hs hstep => (step_advances hs hstep).inv) (new_inv now) h

/-- A completed transaction stays completed, and sends nothing more. -/
theorem run_over (hs : s.Inv) (hc : s.isCompleted = true) (h : exec step s es = some t) :
    t.isCompleted = true ∧ t.sent = s.sent := by
  have key : t.Inv ∧ t.isCompleted = true ∧ t.sent = s.sent := by
    refine exec_invariant (I := fun t => t.Inv ∧ t.isCompleted = true ∧ t.sent = s.sent) ?_
      ⟨hs, hc, rfl⟩ h
    rintro u e u' ⟨hu, huc, husent⟩ hstep
    have hadv := step_advances hu hstep
    exact ⟨hadv.inv, hadv.completed_iff.mpr (Or.inl huc), by rw [hadv.silent huc, husent]⟩
  exact key.2

/-- Before the completion nothing is sent, and who registered waits. -/
theorem run_waiting (h : exec step (new now) es = some s) :
    s.isCompleted = false → s.sent = [] ∧ s.pendingClients = registered es := by
  refine exec_induction
    (P := fun es s => s.isCompleted = false → s.sent = [] ∧ s.pendingClients = registered es)
    (fun _ => ⟨rfl, rfl⟩) ?_ h
  intro es s e s' hs ih hstep hc'
  have hadv := step_advances (run_inv hs) hstep
  have hc : s.isCompleted = false := by
    by_contra hn
    rw [Bool.not_eq_false] at hn
    rw [hadv.completed_iff.mpr (Or.inl hn)] at hc'
    cases hc'
  obtain ⟨hsent, hpending⟩ := hadv.waiting hc'
  obtain ⟨ihsent, ihpending⟩ := ih hc
  refine ⟨by rw [hsent, ihsent], ?_⟩
  rw [hpending, ihpending]
  unfold registered
  rw [filterMap_append]

/-- The event of a run that completes the transaction. -/
structure CompletedBy (now : ℕ) (es : List (Event Sender Client)) (t : Transaction Sender Client)
    (before : List (Event Sender Client)) (e : Event Sender Client)
    (s s' : Transaction Sender Client) : Prop where
  taken : ∃ after, es = before ++ e :: after ∧ exec step s' after = some t
  reached : exec step (new now) before = some s
  step : s.step e = some s'
  /-- It is the drop of the last clone, or the deadline. -/
  cause : s.DropsLast e ∨ e = .deadlineReached
  notCompleted : s.isCompleted = false
  completed : s'.isCompleted = true
  /-- Until then nobody is notified. -/
  silent : s.sent = []
  /-- It notifies who registered before it, in order. -/
  notified : s'.sent.map Prod.snd = registered before
  /-- Nobody is notified later. -/
  final : t.sent = s'.sent

theorem exists_completedBy (h : exec step (new now) es = some t) (hc : t.isCompleted = true) :
    ∃ before e s s', CompletedBy now es t before e s s' := by
  induction es using List.reverseRecOn generalizing t with
  | nil =>
    rw [exec_nil, Option.some.injEq] at h
    rw [← h] at hc
    cases hc
  | append_singleton es e ih =>
    obtain ⟨s, hs, hstep⟩ := exec_concat_eq_some.mp h
    have hadv := step_advances (run_inv hs) hstep
    by_cases hsc : s.isCompleted = true
    · obtain ⟨before, e', u, u', hby⟩ := ih hs hsc
      obtain ⟨after, rfl, hafter⟩ := hby.taken
      refine ⟨before, e', u, u', { hby with taken := ?_, final := ?_ }⟩
      · exact ⟨after ++ [e], by simp, exec_concat_eq_some.mpr ⟨s, hafter, hstep⟩⟩
      · rw [hadv.silent hsc, hby.final]
    · rw [Bool.not_eq_true] at hsc
      obtain ⟨hsent, hpending⟩ := run_waiting hs hsc
      refine ⟨es, e, s, t, ⟨⟨[], rfl, rfl⟩, hs, hstep, ?_, hsc, hc, hsent, ?_, rfl⟩⟩
      · rcases hadv.completed_iff.mp hc with hn | hcause
        · rw [hsc] at hn
          cases hn
        · exact hcause
      · rw [hadv.completing hsc hc, hsent, hpending]
        rfl

/-- A run in which the last clone is dropped or the deadline fires is completed. -/
theorem completed_of_cause {before after : List (Event Sender Client)}
    (h : exec step (new now) (before ++ e :: after) = some t)
    (hs : exec step (new now) before = some s) (hcause : s.DropsLast e ∨ e = .deadlineReached) :
    t.isCompleted = true := by
  obtain ⟨s₁, hs₁, hrest⟩ := exec_append_eq_some.mp h
  obtain rfl : s = s₁ := Option.some.inj (hs.symm.trans hs₁)
  obtain ⟨s', hstep, hafter⟩ := exec_cons_eq_some.mp hrest
  have hadv := step_advances (run_inv hs) hstep
  exact (run_over hadv.inv (hadv.completed_iff.mpr (Or.inr hcause)) hafter).1

theorem blockerState_released :
    s.blockerState .ofTransaction = .released ↔ s.isCompleted = true ∨ s.upgrade = none := by
  unfold blockerState upgrade isCompleted
  by_cases hgone : s.strongCount = 0
  · simp [hgone]
  · cases hc : s.inner.completed <;> simp [hgone, hc]

/-- A blocker that is released stays released. -/
theorem run_blockerState (hs : s.Inv) (h : exec step s es = some t) {b : TransactionBlocker}
    (hb : s.blockerState b = .released) : t.blockerState b = .released := by
  cases b with
  | completed => rfl
  | ofTransaction =>
    have hc : s.isCompleted = true := by
      rcases blockerState_released.mp hb with hc | hgone
      · exact hc
      · refine hs.gone ?_
        by_contra hpos
        simp [upgrade, hpos] at hgone
    exact blockerState_released.mpr (Or.inl (run_over hs hc h).1)

/-- **The protocol, in every interleaving.**  The transaction is completed exactly when its last
clone has been dropped or its deadline has fired; a blocker made from it is released exactly when
it is completed or gone, and stays so; nobody is notified before the completion, which notifies
every registration made before it once, in order, and afterwards nobody is notified. -/
theorem run_protocol {now : ℕ} {es : List (Event Sender Client)} {t : Transaction Sender Client}
    (h : exec step (new now) es = some t) :
    (t.isCompleted = true ↔ ∃ before e after s, es = before ++ e :: after ∧
      exec step (new now) before = some s ∧ (s.DropsLast e ∨ e = .deadlineReached)) ∧
    (t.blockerState .ofTransaction = .released ↔ t.isCompleted = true ∨ t.upgrade = none) ∧
    (∀ fs u b, exec step t fs = some u → t.blockerState b = .released →
      u.blockerState b = .released) ∧
    (t.isCompleted = false → t.sent = []) ∧
    (t.isCompleted = true → ∃ before e s s', CompletedBy now es t before e s s') := by
  refine ⟨⟨fun hc => ?_, ?_⟩, blockerState_released, ?_, ?_, exists_completedBy h⟩
  · obtain ⟨before, e, s, s', hby⟩ := exists_completedBy h hc
    obtain ⟨after, hes, -⟩ := hby.taken
    exact ⟨before, e, after, s, hes, hby.reached, hby.cause⟩
  · rintro ⟨before, e, after, s, rfl, hs, hcause⟩
    exact completed_of_cause h hs hcause
  · intro fs u b hu hb
    exact run_blockerState (run_inv h) hu hb
  · intro hc
    exact (run_waiting h hc).1

/-- The protocol for two windows of one client and a window of another, of which one drops its
clone after the deadline. -/
theorem run_protocol_deadline :
    ∃ (es : List (Event ℕ ℕ)) (t : Transaction ℕ ℕ),
      es = [.clone, .registerDeadlineTimer, .addNotification 0 1, .addNotification 0 2,
        .addNotification 0 1, .blocker, .drop, .advance 300, .deadlineReached, .drop,
        .removeTimer] ∧
      exec step (new 0) es = some t ∧ t.sent = [(0, 1), (0, 2), (0, 1)] ∧
      ∃ before e s s', CompletedBy 0 es t before e s s' := by
  refine ⟨_, _, rfl, rfl, rfl, ?_⟩
  exact (@run_protocol ℕ ℕ 0 _ _ rfl).2.2.2.2 rfl

/-- A client with two windows in the transaction registers twice, and is notified twice. -/
theorem client_notified_twice :
    ¬ ∀ (es : List (Event ℕ ℕ)) (t : Transaction ℕ ℕ), exec step (new 0) es = some t →
      t.isCompleted = true → ∀ client ∈ registered es, (t.sent.map Prod.snd).count client ≤ 1 := by
  intro h
  have htwice := h [.addNotification 0 7, .addNotification 0 7, .drop] _ rfl rfl 7 (by decide)
  revert htwice
  decide

end Transaction

end Functions

end Tiri.Utils
