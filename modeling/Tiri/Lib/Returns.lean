import Mathlib.Data.List.Forall2
import Tiri.Lib.Ensures

/-!
# Total correctness of code that may abort

`Returns x P` says that `x` does return, and that what it returns has `P`.  It is `Ensures` and
more: a fact that `Ensures` gives about the same code is added by `Returns.and`.

Results:
* `Returns.bind`, `Returns.ite`, `Returns.mono`, `Returns.map`: the rules, in the shape of `do`
  blocks;
* `Returns.and`: partial correctness on top;
* `mapM_eq_some`, `Returns.mapM`: a computation for each element of a list.
-/

namespace Tiri

open Option List

universe u

variable {α β : Type u}

/-- Total correctness: `x` returns, and its value satisfies `P`. -/
def Returns (x : Option α) (P : α → Prop) : Prop := ∃ a, x = some a ∧ P a

namespace Returns

variable {x : Option α} {P Q : α → Prop} {a : α}

theorem of_some (h : P a) : Returns (Option.some a) P := ⟨a, rfl, h⟩

theorem of_pure (h : P a) : Returns (pure a) P := of_some h

theorem mono (h : Returns x P) (hPQ : ∀ a, P a → Q a) : Returns x Q := by
  obtain ⟨a, ha, hP⟩ := h
  exact ⟨a, ha, hPQ a hP⟩

/-- There is one value that can be returned. -/
theorem ensures (h : Returns x P) : Ensures x P := by
  obtain ⟨a, rfl, hP⟩ := h
  rintro b ⟨⟩
  exact hP

/-- What holds of any value that is returned. -/
theorem and (h : Returns x P) (hQ : Ensures x Q) : Returns x fun a => P a ∧ Q a := by
  obtain ⟨a, ha, hP⟩ := h
  exact ⟨a, ha, hP, hQ a ha⟩

variable {R : β → Prop} {f : α → Option β}

theorem bind (hx : Returns x P) (hf : ∀ a, P a → Returns (f a) R) : Returns (x >>= f) R := by
  obtain ⟨a, rfl, hP⟩ := hx
  exact hf a hP

/-- The next step is known to return `a`. -/
theorem bind_of_eq (hx : x = some a) (hf : Returns (f a) R) : Returns (x >>= f) R := by
  rw [hx]
  exact hf

theorem map {f : α → β} (hx : Returns x fun a => R (f a)) : Returns (f <$> x) R := by
  obtain ⟨a, rfl, hR⟩ := hx
  exact ⟨f a, rfl, hR⟩

theorem ite {c : Prop} [Decidable c] {y : Option α} (hx : c → Returns x P)
    (hy : ¬c → Returns y P) : Returns (if c then x else y) P := by
  split_ifs with hc
  · exact hx hc
  · exact hy hc

end Returns

variable {γ : Type u} {f : γ → Option β} {l : List γ}

/-- A list of computations returns the list of what each of them returns. -/
theorem mapM_eq_some {bs : List β} :
    l.mapM f = some bs ↔ List.Forall₂ (fun a b => f a = some b) l bs := by
  induction l generalizing bs with
  | nil =>
    rw [mapM_nil, List.forall₂_nil_left_iff]
    exact ⟨fun h => (some.inj h).symm, fun h => h ▸ rfl⟩
  | cons a l ih =>
    rw [mapM_cons, List.forall₂_cons_left_iff]
    constructor
    · intro h
      obtain ⟨b, hb, h⟩ := bind_eq_some_iff.mp h
      obtain ⟨bs', hbs', h⟩ := bind_eq_some_iff.mp h
      exact ⟨b, bs', hb, ih.mp hbs', (some.inj h).symm⟩
    · rintro ⟨b, bs', hb, hbs', rfl⟩
      rw [hb, ih.mpr hbs']
      rfl

variable {P : γ → β → Prop}

theorem Ensures.mapM (h : ∀ a ∈ l, Ensures (f a) (P a)) :
    Ensures (l.mapM f) (List.Forall₂ P l) := by
  induction l with
  | nil => exact Ensures.of_pure .nil
  | cons a l ih =>
    rw [mapM_cons]
    refine (h a mem_cons_self).bind fun b hb => ?_
    refine (ih fun a ha => h a (mem_cons_of_mem _ ha)).bind fun bs hbs => ?_
    exact Ensures.of_pure (.cons hb hbs)

theorem Returns.mapM (h : ∀ a ∈ l, Returns (f a) (P a)) :
    Returns (l.mapM f) (List.Forall₂ P l) := by
  induction l with
  | nil => exact Returns.of_pure .nil
  | cons a l ih =>
    rw [mapM_cons]
    refine (h a mem_cons_self).bind fun b hb => ?_
    refine (ih fun a ha => h a (mem_cons_of_mem _ ha)).bind fun bs hbs => ?_
    exact Returns.of_pure (.cons hb hbs)

end Tiri
