import Mathlib.Tactic.Common

/-!
# Event loops with removable sources

What code relies on when it registers callbacks with an event loop: a new source gets a token
that no source had before, and stays registered, with its callback, until it is removed.

Results:
* `registered_insertSource_iff`, `registered_remove_iff`: what is registered after a change;
* `Sources`: an event loop that counts its tokens.
-/

namespace Tiri

open Function

/-- An event loop over callbacks. -/
class EventLoop (L : Type) (Token Callback : outParam Type) where
  /-- The callback registered under a token. -/
  registered : L → Token → Option Callback
  /-- The token has been given to some source. -/
  Used : L → Token → Prop
  insertSource : L → Callback → Token × L
  remove : L → Token → L
  used_of_registered {l : L} {t : Token} {c : Callback} : registered l t = some c → Used l t
  insertSource_fresh (l : L) (c : Callback) : ¬ Used l (insertSource l c).1
  registered_insertSource_self (l : L) (c : Callback) :
    registered (insertSource l c).2 (insertSource l c).1 = some c
  registered_insertSource_of_ne (l : L) (c : Callback) {t : Token} :
    t ≠ (insertSource l c).1 → registered (insertSource l c).2 t = registered l t
  used_insertSource (l : L) (c : Callback) (t : Token) :
    Used (insertSource l c).2 t ↔ t = (insertSource l c).1 ∨ Used l t
  registered_remove_self (l : L) (t : Token) : registered (remove l t) t = none
  registered_remove_of_ne (l : L) {t t' : Token} :
    t' ≠ t → registered (remove l t) t' = registered l t'
  used_remove (l : L) (t t' : Token) : Used (remove l t) t' ↔ Used l t'

namespace EventLoop

variable {L Token Callback : Type} [EventLoop L Token Callback] {l : L}

theorem registered_insertSource_iff {c c' : Callback} {t : Token} :
    registered (insertSource l c).2 t = some c' ↔
      (t = (insertSource l c).1 ∧ c' = c) ∨ registered l t = some c' := by
  by_cases ht : t = (insertSource l c).1
  · have hnot : registered l t ≠ some c' := fun h =>
      insertSource_fresh l c (ht ▸ used_of_registered h)
    rw [ht, registered_insertSource_self, Option.some.injEq]
    rw [ht] at hnot
    simp [hnot, eq_comm]
  · rw [registered_insertSource_of_ne l c ht]
    simp [ht]

theorem registered_remove_iff {t t' : Token} {c : Callback} :
    registered (remove l t) t' = some c ↔ t' ≠ t ∧ registered l t' = some c := by
  by_cases ht : t' = t
  · rw [ht, registered_remove_self]
    simp
  · rw [registered_remove_of_ne l ht]
    simp [ht]

end EventLoop

/-- An event loop whose tokens are counted. -/
structure Sources (Callback : Type) where
  next : ℕ
  callbacks : ℕ → Option Callback
  fresh : ∀ t, next ≤ t → callbacks t = none

namespace Sources

variable {Callback : Type}

/-- No source. -/
def empty : Sources Callback where
  next := 0
  callbacks _ := none
  fresh _ _ := rfl

instance : EventLoop (Sources Callback) ℕ Callback where
  registered l := l.callbacks
  Used l t := t < l.next
  insertSource l c := (l.next,
    { next := l.next + 1
      callbacks := update l.callbacks l.next (some c)
      fresh := fun t ht => by
        rw [update_of_ne (by omega)]
        exact l.fresh t (by omega) })
  remove l t :=
    { next := l.next
      callbacks := update l.callbacks t none
      fresh := fun t' ht' => by
        by_cases heq : t' = t
        · rw [heq, update_self]
        · rw [update_of_ne heq]
          exact l.fresh t' ht' }
  used_of_registered {l t c} h := by
    by_contra hn
    rw [l.fresh t (by omega)] at h
    cases h
  insertSource_fresh l c := by
    show ¬ l.next < l.next
    omega
  registered_insertSource_self l c := update_self ..
  registered_insertSource_of_ne l c t ht := update_of_ne ht ..
  used_insertSource l c t := by
    show t < l.next + 1 ↔ t = l.next ∨ t < l.next
    omega
  registered_remove_self l t := update_self ..
  registered_remove_of_ne l t t' ht := update_of_ne ht ..
  used_remove l t t' := Iff.rfl

end Sources

end Tiri
