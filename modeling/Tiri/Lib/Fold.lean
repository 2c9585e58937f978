import Mathlib.Data.List.Basic
import Mathlib.Data.List.Induction

/-!
# One field under a fold of updates

A value goes through a list of updates.  A field that every update either leaves alone or sets
to the same `v` ends as `v`, as soon as it starts as `v` or one of the updates sets it.

Results:
* `foldl_invariant`: what every update keeps;
* `foldl_reset`: a value that some update sets and none changes again;
* `foldl_field`: the field of a value for which an invariant holds;
* `foldl_merged`: updates that are merged into one first.
-/

namespace Tiri.Fold

open List

variable {α β ε : Type*} {f : α → ε → α} {I : α → Prop} {p : α → β} {v : β} {events : List ε}

section

variable (hI : ∀ e ∈ events, ∀ a, I a → I (f a e))
include hI

/-- What every update keeps holds in the end. -/
theorem foldl_invariant {a : α} (h : I a) : I (events.foldl f a) := by
  induction events generalizing a with
  | nil => exact h
  | cons e events ih =>
    exact ih (fun e' he' => hI e' (mem_cons_of_mem _ he')) (hI e (by simp) a h)

omit hI in
/-- **The whole value.**  It ends as `v` if some update sets it and none leads away from `v`. -/
theorem foldl_reset {w : α} (hkeep : ∀ e ∈ events, f w e = w) (hset : ∃ e ∈ events, ∀ a, f a e = w)
    (a : α) : events.foldl f a = w := by
  obtain ⟨e, he, hset⟩ := hset
  obtain ⟨before, after, rfl⟩ := append_of_mem he
  rw [foldl_append, foldl_cons, hset]
  refine foldl_invariant (I := (· = w)) (fun e' he' b hb => ?_) rfl
  rw [hb]
  exact hkeep e' (mem_append_right _ (mem_cons_of_mem _ he'))

section

variable (hstep : ∀ e ∈ events, ∀ a, I a → p (f a e) = p a ∨ p (f a e) = v)
include hstep

/-- A field that has its value keeps it. -/
theorem foldl_keeps {a : α} (h : I a) (hp : p a = v) : p (events.foldl f a) = v := by
  suffices key : I (events.foldl f a) ∧ p (events.foldl f a) = v from key.2
  refine foldl_invariant (I := fun a => I a ∧ p a = v) ?_ ⟨h, hp⟩
  rintro e he a ⟨ha, hpa⟩
  refine ⟨hI e he a ha, ?_⟩
  rcases hstep e he a ha with heq | heq
  · rw [heq, hpa]
  · exact heq

/-- **One field.**  It ends as `v` if it starts so, or if some update sets it. -/
theorem foldl_field {a : α} (h : I a) (hp : p a = v ∨ ∃ e ∈ events, ∀ a, I a → p (f a e) = v) :
    p (events.foldl f a) = v := by
  rcases hp with hp | ⟨e, he, hset⟩
  · exact foldl_keeps hI hstep h hp
  · obtain ⟨before, after, rfl⟩ := append_of_mem he
    rw [foldl_append, foldl_cons]
    have hbefore : I (before.foldl f a) :=
      foldl_invariant (fun e' he' => hI e' (mem_append_left _ he')) h
    have hafter : ∀ e' ∈ after, e' ∈ before ++ e :: after := fun e' he' =>
      mem_append_right _ (mem_cons_of_mem _ he')
    exact foldl_keeps (fun e' he' => hI e' (hafter e' he')) (fun e' he' => hstep e' (hafter e' he'))
      (hI e he _ hbefore) (hset _ hbefore)

end

end

/-- **Updates merged first.**  A part of the value ends as if the updates had been made one by one,
when it does for two updates. -/
theorem foldl_merged {merge : ε → ε → ε} {e : ε} (hempty : ∀ a, p (f a e) = p a)
    (hmerge : ∀ a e₁ e₂, p (f a (merge e₁ e₂)) = p (f (f a e₁) e₂))
    (hpart : ∀ a b e, p a = p b → p (f a e) = p (f b e)) (a : α) (events : List ε) :
    p (f a (events.foldl merge e)) = p (events.foldl f a) := by
  induction events using List.reverseRecOn with
  | nil => exact hempty a
  | append_singleton events e' ih =>
    rw [foldl_concat, foldl_concat, hmerge]
    exact hpart _ _ e' ih

end Tiri.Fold
