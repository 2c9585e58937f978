import Mathlib.Data.Option.Basic
import Mathlib.Logic.Relation
import Mathlib.Tactic.Common

/-!
# Partial correctness of code that may abort, and invariants of its runs

Code that may abort is a function into `Option`.  `Ensures x P` says that `x`, if it returns,
returns a value with `P`; its rules follow the shape of `do` blocks, so that a caller is
proved from the specifications of its callees.  `Reachable` closes a set of initial states
under a step relation, and `Reachable.invariant` is the induction over such runs.

Results:
* `Ensures.bind`, `Ensures.ite`, `Ensures.mono`, `Ensures.and`: the rules;
* `Reachable.invariant`: what holds initially and is kept by each step holds in every
  reachable state.
-/

namespace Tiri

universe u

variable {α β : Type u} {σ : Type*}

/-- Partial correctness: whatever `x` returns satisfies `P`. -/
def Ensures (x : Option α) (P : α → Prop) : Prop :=
  ∀ a, x = some a → P a

namespace Ensures

variable {x : Option α} {P Q : α → Prop} {a : α}

theorem elim (h : Ensures x P) (ha : x = some a) : P a := h a ha

theorem of_some (h : P a) : Ensures (Option.some a) P := by
  intro b hb
  cases hb
  exact h

theorem of_pure (h : P a) : Ensures (pure a) P := of_some h

theorem of_none : Ensures (Option.none : Option α) P := by
  intro a ha
  cases ha

theorem mono (h : Ensures x P) (hPQ : ∀ a, P a → Q a) : Ensures x Q :=
  fun a ha => hPQ a (h a ha)

theorem and (hP : Ensures x P) (hQ : Ensures x Q) : Ensures x fun a => P a ∧ Q a :=
  fun a ha => ⟨hP a ha, hQ a ha⟩

theorem self : Ensures x fun a => x = some a := fun _ ha => ha

variable {R : β → Prop}

theorem bind {f : α → Option β} (hx : Ensures x P) (hf : ∀ a, P a → Ensures (f a) R) :
    Ensures (x >>= f) R := by
  intro b hb
  obtain ⟨a, ha, hfa⟩ := Option.bind_eq_some_iff.mp hb
  exact hf a (hx a ha) b hfa

theorem map {f : α → β} (hx : Ensures x fun a => R (f a)) : Ensures (f <$> x) R := by
  intro b hb
  obtain ⟨a, ha, rfl⟩ := Option.map_eq_some_iff.mp hb
  exact hx a ha

theorem ite {c : Prop} [Decidable c] {y : Option α} (hx : c → Ensures x P)
    (hy : ¬c → Ensures y P) : Ensures (if c then x else y) P := by
  split_ifs with hc
  · exact hx hc
  · exact hy hc

end Ensures

/-- The states that runs of `step` from a state of `init` pass through. -/
inductive Reachable (init : σ → Prop) (step : σ → σ → Prop) : σ → Prop
  | init {s : σ} : init s → Reachable init step s
  | step {s s' : σ} : Reachable init step s → step s s' → Reachable init step s'

/-- **Induction over runs**: an invariant holds in every reachable state. -/
theorem Reachable.invariant {init : σ → Prop} {step : σ → σ → Prop} {I : σ → Prop}
    (hinit : ∀ s, init s → I s) (hstep : ∀ s s', I s → step s s' → I s') {s : σ}
    (h : Reachable init step s) : I s := by
  induction h with
  | init h => exact hinit _ h
  | step _ hs ih => exact hstep _ _ ih hs

end Tiri
