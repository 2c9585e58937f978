import Tiri.Lib.Ensures

/-!
# Code that reads an environment, threads a state and may abort

`Comp ρ σ α` is such code.  `Yields x P` says that `x`, whatever the environment and the state
it is run in, returns a value with `P` if it returns; its rules follow the shape of `do` blocks,
as those of `Ensures` do, and `Yields.lift` brings in what is known of code that only may abort.

`YieldsFrom r s x P` is about one environment and one state to start from, and `P` may compare
that state with the one that is left.

Results:
* `Yields.bind`, `Yields.lift`, `Yields.ite`, `Yields.mapM`, `Yields.mono`: the rules;
* `YieldsFrom.bind`, `YieldsFrom.lift_bind`, `YieldsFrom.mapM`: the rules from a given state;
* `run_bind`, `run_lift_bind`, `run_lift`: runs of code that is known to return.
-/

namespace Tiri

open Option

universe u

/-- Code that reads a `ρ`, threads a `σ` and may abort. -/
abbrev Comp (ρ σ : Type u) := ReaderT ρ (StateT σ Option)

variable {ρ σ α β : Type u}

/-- Partial correctness, whatever the environment and the state. -/
def Yields (x : Comp ρ σ α) (P : α → Prop) : Prop :=
  ∀ r s, Ensures ((x.run r).run s) fun p => P p.1

namespace Yields

variable {x : Comp ρ σ α} {P Q : α → Prop}

theorem of_pure {a : α} (h : P a) : Yields (pure a : Comp ρ σ α) P :=
  fun _ _ => Ensures.of_some h

theorem lift {y : Option α} (h : Ensures y P) : Yields (liftM y : Comp ρ σ α) P := by
  intro r s p hp
  obtain ⟨a, ha, hap⟩ := bind_eq_some_iff.mp hp
  cases hap
  exact h a ha

theorem mono (h : Yields x P) (hPQ : ∀ a, P a → Q a) : Yields x Q :=
  fun r s => (h r s).mono fun p hp => hPQ p.1 hp

theorem any : Yields x fun _ => True := fun _ _ _ _ => trivial

variable {f : α → Comp ρ σ β}

theorem bind {R : β → Prop} (hx : Yields x P) (hf : ∀ a, P a → Yields (f a) R) :
    Yields (x >>= f) R := by
  intro r s q hq
  obtain ⟨p, hp, hfp⟩ := bind_eq_some_iff.mp hq
  exact hf p.1 (hx r s p hp) r p.2 q hfp

theorem ite {c : Prop} [Decidable c] {y : Comp ρ σ α} (hx : c → Yields x P)
    (hy : ¬c → Yields y P) : Yields (if c then x else y) P := by
  split_ifs with hc
  · exact hx hc
  · exact hy hc

/-- A list is gone through. -/
theorem mapM {R : α → β → Prop} (h : ∀ a, Yields (f a) (R a)) (l : List α) :
    Yields (l.mapM f) (List.Forall₂ R l) := by
  induction l with
  | nil => exact of_pure .nil
  | cons a l ih =>
    rw [List.mapM_cons]
    exact (h a).bind fun b hb => ih.bind fun bs hbs => of_pure (.cons hb hbs)

/-- A run that returned. -/
theorem elim (h : Yields x P) {r : ρ} {s : σ} {p : α × σ} (hp : (x.run r).run s = some p) :
    P p.1 := h r s p hp

end Yields

/-! ## From a given state -/

/-- Partial correctness, in the environment `r` and from the state `s`. -/
def YieldsFrom (r : ρ) (s : σ) (x : Comp ρ σ α) (P : α → σ → Prop) : Prop :=
  Ensures ((x.run r).run s) fun p => P p.1 p.2

namespace YieldsFrom

variable {r : ρ} {s : σ} {x : Comp ρ σ α} {P Q : α → σ → Prop} {a : α}

theorem elim (h : YieldsFrom r s x P) {s' : σ} (hrun : (x.run r).run s = some (a, s')) :
    P a s' := h (a, s') hrun

theorem of_pure (h : P a s) : YieldsFrom r s (pure a : Comp ρ σ α) P := Ensures.of_some h

theorem mono (h : YieldsFrom r s x P) (hPQ : ∀ a s', P a s' → Q a s') : YieldsFrom r s x Q :=
  Ensures.mono h fun p hp => hPQ p.1 p.2 hp

variable {f : α → Comp ρ σ β} {R : β → σ → Prop}

theorem bind (hx : YieldsFrom r s x P) (hf : ∀ a s', P a s' → YieldsFrom r s' (f a) R) :
    YieldsFrom r s (x >>= f) R :=
  Ensures.bind hx fun p hp => hf p.1 p.2 hp

variable {y : Option α}

theorem lift {P : α → Prop} (h : Ensures y P) :
    YieldsFrom r s (liftM y : Comp ρ σ α) fun a s' => s' = s ∧ P a := by
  intro p hp
  obtain ⟨a, ha, hap⟩ := bind_eq_some_iff.mp hp
  cases hap
  exact ⟨rfl, h a ha⟩

theorem lift_bind {P : α → Prop} (hy : Ensures y P) (hf : ∀ a, P a → YieldsFrom r s (f a) R) :
    YieldsFrom r s ((liftM y : Comp ρ σ α) >>= f) R :=
  (lift hy).bind fun a _ h => h.1 ▸ hf a h.2

theorem read_bind {f : ρ → Comp ρ σ β} (hf : YieldsFrom r s (f r) R) :
    YieldsFrom r s (read >>= f) R := hf

theorem ite {c : Prop} [Decidable c] {y : Comp ρ σ α} (hx : c → YieldsFrom r s x P)
    (hy : ¬c → YieldsFrom r s y P) : YieldsFrom r s (if c then x else y) P := by
  split_ifs with hc
  · exact hx hc
  · exact hy hc

/-- A list is gone through; `I` relates what has been gone through to what it has become. -/
theorem mapM {I : List α → σ → List β → σ → Prop} (hnil : ∀ s, I [] s [] s)
    (hcons : ∀ a l s, YieldsFrom r s (f a) fun b s' =>
      ∀ bs s'', I l s' bs s'' → I (a :: l) s (b :: bs) s'') (l : List α) (s : σ) :
    YieldsFrom r s (l.mapM f) (I l s) := by
  induction l generalizing s with
  | nil => exact of_pure (hnil s)
  | cons a l ih =>
    rw [List.mapM_cons]
    exact (hcons a l s).bind fun b s' hb => (ih s').bind fun bs s'' hbs => of_pure (hb bs s'' hbs)

end YieldsFrom

/-! ## Runs, one part after another -/

section Run

variable {x : Comp ρ σ α} {f : α → Comp ρ σ β} {r : ρ} {s s' : σ} {a : α}

/-- A part that has returned. -/
theorem run_bind (h : (x.run r).run s = some (a, s')) :
    ((x >>= f).run r).run s = ((f a).run r).run s' := by
  change ((x.run r).run s).bind (fun p => ((f p.1).run r).run p.2) = _
  rw [h, bind_some]

/-- The environment that is read. -/
theorem run_read_bind {f : ρ → Comp ρ σ β} :
    (((read : Comp ρ σ ρ) >>= f).run r).run s = ((f r).run r).run s := rfl

variable {y : Option α}

/-- A part that only could have aborted. -/
theorem run_lift_bind (h : y = some a) :
    (((liftM y : Comp ρ σ α) >>= f).run r).run s = ((f a).run r).run s := by
  rw [h]
  rfl

theorem run_lift (h : y = some a) : ((liftM y : Comp ρ σ α).run r).run s = some (a, s) := by
  rw [h]
  rfl

end Run

end Tiri
